import Mathlib.Data.List.Basic
import Mathlib.Data.Nat.ModEq
import Mathlib.Algebra.BigOperators.Group.List.Basic
import Mathlib.Tactic.Ring

/-! One's-complement arithmetic on words below a limit: addition carries around
the end, so a sum only counts modulo the limit less one, and the two words that
are zero there are kept apart. Internet checksums are complements of such sums. -/
namespace OnesComplement

variable {limit total rest old new check a b : ℕ}

/-- Addition of two words, the carry added back in at the low end. -/
def add (limit a b : ℕ) : ℕ := if a + b < limit then a + b else a + b - (limit - 1)

/-- The one's-complement sum of some words. -/
def sum (limit : ℕ) (words : List ℕ) : ℕ := words.foldl (add limit) 0

/-- The word with every bit turned over, when the limit is a power of two. -/
def complement (limit word : ℕ) : ℕ := limit - 1 - word

/-- The word a plain sum comes down to once all its carries are added back in:
zero for nothing, otherwise the residue between one and the largest word. -/
def settle (limit total : ℕ) : ℕ := if total = 0 then 0 else (total - 1) % (limit - 1) + 1

theorem settle_of_lt (small : total < limit) : settle limit total = total := by
  unfold settle
  split
  · exact Eq.symm ‹_›
  · rw [Nat.mod_eq_of_lt (by omega)]
    omega

theorem settle_lt (wide : 1 < limit) : settle limit total < limit := by
  unfold settle
  split
  · omega
  · have residue := Nat.mod_lt (total - 1) (show 0 < limit - 1 by omega)
    omega

theorem settle_pos (some : 0 < total) : 0 < settle limit total := by
  simp [settle, Nat.ne_of_gt some]

/-- Settling loses multiples of the largest word and nothing else. -/
theorem settle_modEq : settle limit total ≡ total [MOD limit - 1] := by
  unfold settle
  split
  · rename_i nothing
    rw [nothing]
  · have step : (total - 1) % (limit - 1) + 1 ≡ total - 1 + 1 [MOD limit - 1] :=
      (Nat.mod_modEq _ _).add_right 1
    rwa [Nat.sub_add_cancel (by omega)] at step

/-- Two sums that are not zero settle to one word when they are congruent. -/
theorem settle_congr (left : 0 < a) (right : 0 < b) (same : a ≡ b [MOD limit - 1]) :
    settle limit a = settle limit b := by
  unfold settle
  rw [if_neg (by omega), if_neg (by omega)]
  have before : a - 1 + 1 ≡ b - 1 + 1 [MOD limit - 1] := by
    rwa [Nat.sub_add_cancel left, Nat.sub_add_cancel right]
  exact congrArg (· + 1) (Nat.ModEq.add_right_cancel' 1 before)

/-- Adding the carries back in once does not change what a sum settles to. -/
theorem settle_carry (wide : 1 < limit) :
    settle limit (total % limit + total / limit) = settle limit total := by
  rcases Nat.eq_zero_or_pos total with rfl | something
  · simp
  · have parts := Nat.mod_add_div total limit
    have positive : 0 < total % limit + total / limit := by
      apply Nat.pos_of_ne_zero
      intro nothing
      obtain ⟨low, high⟩ := Nat.add_eq_zero_iff.mp nothing
      rw [low, high] at parts
      omega
    apply settle_congr positive something
    have cast : total = total % limit + total / limit + (limit - 1) * (total / limit) := by
      calc
        total = total % limit + (limit - 1 + 1) * (total / limit) := by
          rw [Nat.sub_add_cancel (by omega)]
          exact parts.symm
        _ = total % limit + total / limit + (limit - 1) * (total / limit) := by ring
    unfold Nat.ModEq
    conv_rhs => rw [cast, Nat.add_mul_mod_self_left]

theorem add_eq_settle (left : a < limit) (right : b < limit) :
    add limit a b = settle limit (a + b) := by
  unfold add
  split
  · rename_i small
    exact (settle_of_lt small).symm
  · have carried : settle limit (a + b - (limit - 1)) = a + b - (limit - 1) :=
      settle_of_lt (by omega)
    rw [← carried]
    apply settle_congr (by omega) (by omega)
    have back : a + b = a + b - (limit - 1) + (limit - 1) := by omega
    conv_rhs => rw [back]
    simp [Nat.ModEq]

theorem settle_settle_add :
    settle limit (settle limit a + b) = settle limit (a + b) := by
  rcases Nat.eq_zero_or_pos a with rfl | something
  · simp [settle]
  · have first : 0 < settle limit a := settle_pos something
    exact settle_congr (by omega) (by omega) (settle_modEq.add_right b)

/-- A one's-complement sum is the plain sum, settled. -/
theorem sum_eq_settle {words : List ℕ} (wide : 1 < limit) (small : ∀ word ∈ words, word < limit) :
    sum limit words = settle limit words.sum := by
  have run (seen : ℕ) (held : seen < limit) :
      words.foldl (add limit) seen = settle limit (seen + words.sum) := by
    induction words generalizing seen with
    | nil => simpa using (settle_of_lt held).symm
    | cons word words ih =>
      have first := small word List.mem_cons_self
      have others : ∀ word ∈ words, word < limit :=
        fun word member => small word (List.mem_cons_of_mem _ member)
      rw [List.foldl_cons, add_eq_settle held first, ih others _ (settle_lt wide),
        settle_settle_add, List.sum_cons, Nat.add_assoc]
  simpa [sum] using run 0 (by omega)

/-- Adding the complement of a sum to it leaves all ones: a checksum verifies. -/
theorem settle_add_complement (wide : 1 < limit) :
    settle limit (total + complement limit (settle limit total)) = limit - 1 := by
  have bound : settle limit total < limit := settle_lt wide
  have whole : settle limit total + complement limit (settle limit total) = limit - 1 := by
    unfold complement
    omega
  rw [← settle_settle_add, whole, settle_of_lt (by omega)]

/-- The incremental update of a checksum over one changed word: where the old
sum verified, the new one is had from the old checksum and the two words. -/
theorem settle_update (new : ℕ) (wide : 1 < limit) (oldWord : old < limit) (checkWord : check < limit)
    (verified : settle limit (rest + old + check) = limit - 1) (some : 0 < rest + new)
    (changed : 0 < complement limit old + new) :
    settle limit (rest + new) =
      settle limit (complement limit check + complement limit old + new) := by
  apply settle_congr some (by omega)
  have zero : rest + old + check ≡ 0 [MOD limit - 1] := by
    have settled : rest + old + check ≡ settle limit (rest + old + check) [MOD limit - 1] :=
      settle_modEq.symm
    rw [verified] at settled
    exact settled.trans (by simp [Nat.ModEq])
  have balance : complement limit check + complement limit old + new + (rest + old + check) =
      rest + new + (limit - 1) + (limit - 1) := by
    unfold complement
    omega
  have reduced := zero.add_left (complement limit check + complement limit old + new)
  rw [balance] at reduced
  simpa [Nat.ModEq] using reduced

end OnesComplement
