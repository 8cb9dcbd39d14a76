import Usque.Checksum

/-! What `prepare_outgoing` does to a packet it forwards: one hop is spent, and an
IPv4 header is left with the checksum that makes it verify. The routine is stated a
second time with every index, slice and sum checked, to show that no check fails. -/
namespace Usque.HopDecrement

open Packet Checksum OnesComplement
open Splice (overwrite)

/-! ## The routine with its checks -/

/-- Addition of two `u32`, checked. -/
def addU32 (left right : ℕ) : Option ℕ :=
  if left + right < 4294967296 then some (left + right) else none

/-- `buf[index] -= 1`, checked. -/
def decrementAt (buf : Bytes) (index : ℕ) : Option Bytes := do
  let value : UInt8 ← buf[index]?
  if 1 ≤ value then some (buf.set index (value - 1)) else none

/-- `buf[start..stop].copy_from_slice(source)`, checked. -/
def copyFromSlice (buf : Bytes) (start stop : ℕ) (source : Bytes) : Option Bytes :=
  if start ≤ stop ∧ stop ≤ buf.length ∧ source.length = stop - start then
    some (overwrite buf start source)
  else none

/-- The second byte of a word, zero past the end of an odd header. -/
def lowByte (header : Bytes) (len i : ℕ) : Option UInt8 :=
  if i + 1 < len then header[i + 1]? else some 0

/-- The loop of `calculate_ipv4_checksum` from index `i` on. -/
def sumLoop (header : Bytes) (len i sum : ℕ) : Option ℕ :=
  if i < len then
    if i = 10 then sumLoop header len (i + 2) sum
    else do
      let high : UInt8 ← header[i]?
      let low ← lowByte header len i
      let sum ← addU32 sum (be16 high low)
      sumLoop header len (i + 2) sum
  else some sum
termination_by len - i

/-- The folding loop, with the number of turns as fuel. -/
def foldLoop : ℕ → ℕ → Option ℕ
  | 0, sum => some sum
  | turns + 1, sum =>
    if sum >>> 16 ≠ 0 then do
      let sum ← addU32 (sum &&& 0xffff) (sum >>> 16)
      foldLoop turns sum
    else some sum

def calculateIpv4ChecksumChecked (header : Bytes) : Option UInt16 := do
  let first : UInt8 ← header[0]?
  let ihl := (first &&& 0x0f).toNat * 4
  let len := min ihl header.length
  let sum ← sumLoop header len 0 0
  let sum ← foldLoop sum sum
  some (~~~ (UInt16.ofNat sum))

/-- `prepare_outgoing`, nothing where it would panic. -/
def prepareOutgoingChecked (buf : Bytes) : Option (Except PacketError UInt8 × Bytes) :=
  if buf.isEmpty then some (.error .empty, buf)
  else do
    let first : UInt8 ← buf[0]?
    let version := first >>> 4
    if version = 4 then
      if buf.length < ipv4HeaderLen then some (.error (.tooShort 4 buf.length), buf)
      else do
        let ttl : UInt8 ← buf[8]?
        if ttl ≤ 1 then some (.error (.ttlExpired ttl), buf)
        else do
          let aged ← decrementAt buf 8
          let checksum ← calculateIpv4ChecksumChecked aged
          let out ← copyFromSlice aged 10 12 (toBeBytes checksum)
          some (.ok 4, out)
    else if version = 6 then
      if buf.length < ipv6HeaderLen then some (.error (.tooShort 6 buf.length), buf)
      else do
        let hopLimit : UInt8 ← buf[7]?
        if hopLimit ≤ 1 then some (.error (.ttlExpired hopLimit), buf)
        else do
          let aged ← decrementAt buf 7
          some (.ok 6, aged)
    else some (.error (.unknownVersion version), buf)

theorem addU32_small {left right : ℕ} (small : left + right < 4294967296) :
    addU32 left right = some (left + right) := if_pos small

/-- The loop reads inside the header and adds up what the structural sum does,
as long as the words still to come cannot carry the sum out of 32 bits. -/
theorem sumLoop_eq (header : Bytes) (len i sum : ℕ) (inside : len ≤ header.length)
    (room : sum + 65536 * (len - i) < 4294967296) :
    sumLoop header len i sum = some (sumWords i ((header.take len).drop i) sum) := by
  have front : (header.take len).length = len := List.length_take_of_le inside
  induction left : len - i using Nat.strongRecOn generalizing i sum with
  | ind left ih =>
    unfold sumLoop
    by_cases within : i < len
    · have next := fun more small => ih (len - (i + 2)) (by omega) (i + 2) more small rfl
      rw [if_pos within, List.drop_eq_getElem_cons (by omega : i < (header.take len).length)]
      by_cases skipped : i = 10
      · rw [if_pos skipped, next sum (by omega)]
        by_cases last : i + 1 < len
        · rw [List.drop_eq_getElem_cons (by omega : i + 1 < (header.take len).length), sumWords,
            if_pos skipped]
        · rw [List.drop_eq_nil_of_le (by omega), List.drop_eq_nil_of_le (by omega), sumWords,
            if_pos skipped]
          rfl
      · have first : header[i]? = some (header.take len)[i] := by
          rw [List.getElem_take, List.getElem?_eq_getElem]
        simp only [if_neg skipped, first, Option.bind_eq_bind, Option.bind_some, lowByte]
        by_cases last : i + 1 < len
        · have second : header[i + 1]? = some (header.take len)[i + 1] := by
            rw [List.getElem_take, List.getElem?_eq_getElem]
          have word := be16_lt (header.take len)[i] (header.take len)[i + 1]
          rw [if_pos last, second, Option.bind_some, addU32_small (by omega), Option.bind_some,
            next _ (by omega),
            List.drop_eq_getElem_cons (by omega : i + 1 < (header.take len).length), sumWords,
            if_neg skipped]
        · have word := be16_lt (header.take len)[i] 0
          rw [if_neg last, Option.bind_some, addU32_small (by omega), Option.bind_some,
            next _ (by omega), List.drop_eq_nil_of_le (by omega), List.drop_eq_nil_of_le (by omega),
            sumWords, if_neg skipped]
          rfl
    · rw [if_neg within, List.drop_eq_nil_of_le (by omega)]
      rfl

theorem sumWords_le (i : ℕ) (bytes : Bytes) (sum : ℕ) :
    sumWords i bytes sum ≤ sum + 65536 * bytes.length := by
  induction i, bytes, sum using sumWords.induct with
  | case1 high low rest sum ih =>
    rw [sumWords, if_pos rfl]
    simp only [List.length_cons]
    omega
  | case2 index high low rest sum counted ih =>
    have word := be16_lt high low
    rw [sumWords, if_neg counted]
    simp only [List.length_cons]
    omega
  | case3 last sum => simp [sumWords]
  | case4 index last sum counted =>
    have word := be16_lt last 0
    rw [sumWords, if_neg counted]
    simp only [List.length_singleton]
    omega
  | case5 index sum => simp [sumWords]

theorem foldLoop_eq (turns sum : ℕ) (small : sum < 4294967296) :
    foldLoop turns sum = some (foldCarries turns sum) := by
  induction turns generalizing sum with
  | zero => rfl
  | succ turns ih =>
    have low : sum &&& 0xffff = sum % 65536 := Nat.and_two_pow_sub_one_eq_mod sum 16
    have high : sum >>> 16 = sum / 65536 := Nat.shiftRight_eq_div_pow sum 16
    rw [foldLoop, foldCarries, low, high]
    split
    · rw [addU32_small (by omega)]
      exact ih _ (by omega)
    · rfl

/-- The summed header is at most sixty bytes, so its sum stays in 32 bits. -/
theorem calculateIpv4ChecksumChecked_eq (header : Bytes) (held : 0 < header.length) :
    calculateIpv4ChecksumChecked header = some (calculateIpv4Checksum header held) := by
  have nibble : (header[0] &&& 0x0f).toNat < 16 := by
    rw [UInt8.toNat_and]
    exact Nat.lt_of_le_of_lt Nat.and_le_right (by decide)
  have inside : min ((header[0] &&& 0x0f).toNat * 4) header.length ≤ header.length :=
    Nat.min_le_right _ _
  have short : min ((header[0] &&& 0x0f).toNat * 4) header.length ≤ 60 := by omega
  simp only [calculateIpv4ChecksumChecked, calculateIpv4Checksum, List.getElem?_eq_getElem held,
    Option.bind_eq_bind, Option.bind_some]
  generalize min ((header[0] &&& 0x0f).toNat * 4) header.length = len at inside short
  have summed := sumWords_le 0 (header.take len) 0
  rw [List.length_take_of_le inside] at summed
  rw [sumLoop_eq header len 0 0 inside (by omega), Option.bind_some, List.drop_zero,
    foldLoop_eq _ _ (by omega), Option.bind_some]

private theorem decrementAt_eq {buf : Bytes} {index : ℕ} {value : UInt8}
    (read : buf[index]? = some value) (left : ¬ value ≤ 1) :
    decrementAt buf index = some (buf.set index (value - 1)) := by
  have some : 1 ≤ value := by
    rw [UInt8.le_iff_toNat_le] at left ⊢
    simp only [UInt8.reduceToNat] at left ⊢
    omega
  simp [decrementAt, read, some]

/-- No index, slice or sum of `prepare_outgoing` goes wrong on any buffer. -/
theorem prepareOutgoingChecked_eq (buf : Bytes) :
    prepareOutgoingChecked buf = some (prepareOutgoing buf) := by
  by_cases held : 0 < buf.length
  · have some : ¬ buf.isEmpty = true := by
      rw [List.isEmpty_iff]
      exact List.ne_nil_of_length_pos held
    simp only [prepareOutgoingChecked, prepareOutgoing, if_neg some, dif_pos held,
      List.getElem?_eq_getElem held, Option.bind_eq_bind, Option.bind_some, ipVersion]
    by_cases four : buf[0] >>> 4 = 4
    · rw [if_pos four, if_pos four]
      by_cases long : ipv4HeaderLen ≤ buf.length
      · have whole : 20 ≤ buf.length := long
        have hops : buf[8]? = .some buf[8] := List.getElem?_eq_getElem _
        rw [if_neg (by omega), dif_pos long, hops, Option.bind_some]
        by_cases expired : buf[8] ≤ 1
        · rw [if_pos expired, if_pos expired]
        · have heldAged : 0 < (buf.set 8 (buf[8] - 1)).length := by simpa using held
          rw [if_neg expired, if_neg expired, decrementAt_eq hops expired, Option.bind_some,
            calculateIpv4ChecksumChecked_eq _ heldAged, Option.bind_some, copyFromSlice, if_pos]
          · rfl
          · simpa [toBeBytes] using (by omega : 12 ≤ buf.length)
      · rw [if_pos (by omega), dif_neg long]
    · rw [if_neg four, if_neg four]
      by_cases six : buf[0] >>> 4 = 6
      · rw [if_pos six, if_pos six]
        by_cases long : ipv6HeaderLen ≤ buf.length
        · have whole : 40 ≤ buf.length := long
          have hops : buf[7]? = .some buf[7] := List.getElem?_eq_getElem _
          rw [if_neg (by omega), dif_pos long, hops, Option.bind_some]
          by_cases expired : buf[7] ≤ 1
          · rw [if_pos expired, if_pos expired]
          · rw [if_neg expired, if_neg expired, decrementAt_eq hops expired]
            rfl
        · rw [if_pos (by omega), dif_neg long]
      · rw [if_neg six, if_neg six]
  · have nothing : buf = [] := List.eq_nil_of_length_eq_zero (by omega)
    subst nothing
    rfl

/-! ## When a packet is forwarded, and what is left of it -/

/-- A whole fixed header of a version, with a hop to spend where that version
keeps its hop count. -/
structure Forwardable (buf : Bytes) (version : UInt8) (headerLen hopAt : ℕ) (hops : UInt8) :
    Prop where
  held : 0 < buf.length
  version : ipVersion buf held = version
  whole : headerLen ≤ buf.length
  stored : buf[hopAt]? = some hops
  left : 2 ≤ hops.toNat

/-- An IPv4 packet with at least two hops left. -/
abbrev Ipv4Forwardable (buf : Bytes) (ttl : UInt8) : Prop :=
  Forwardable buf 4 ipv4HeaderLen 8 ttl

/-- An IPv6 packet with at least two hops left. -/
abbrev Ipv6Forwardable (buf : Bytes) (hopLimit : UInt8) : Prop :=
  Forwardable buf 6 ipv6HeaderLen 7 hopLimit

private theorem two_le_iff {hops : UInt8} : 2 ≤ hops.toNat ↔ ¬ hops ≤ 1 := by
  simp only [UInt8.le_iff_toNat_le, UInt8.reduceToNat]
  omega

theorem prepareOutgoing_ipv4 {buf : Bytes} {ttl : UInt8} (forwardable : Ipv4Forwardable buf ttl) :
    ∃ held, prepareOutgoing buf = (.ok 4, overwrite (buf.set 8 (ttl - 1)) 10
      (toBeBytes (calculateIpv4Checksum (buf.set 8 (ttl - 1)) held))) := by
  obtain ⟨held, four, whole, hops, left⟩ := forwardable
  obtain ⟨inside, rfl⟩ := List.getElem?_eq_some_iff.mp hops
  refine ⟨by simpa using held, ?_⟩
  rw [prepareOutgoing, dif_pos held, if_pos four, dif_pos whole]
  exact if_neg (two_le_iff.mp left)

theorem prepareOutgoing_ipv6 {buf : Bytes} {hopLimit : UInt8}
    (forwardable : Ipv6Forwardable buf hopLimit) :
    prepareOutgoing buf = (.ok 6, buf.set 7 (hopLimit - 1)) := by
  obtain ⟨held, six, whole, hops, left⟩ := forwardable
  obtain ⟨inside, rfl⟩ := List.getElem?_eq_some_iff.mp hops
  have other : ¬ ipVersion buf held = 4 := by rw [six]; decide
  rw [prepareOutgoing, dif_pos held, if_neg other, if_pos six, dif_pos whole]
  exact if_neg (two_le_iff.mp left)

/-- Every other buffer is refused and left alone. -/
theorem prepareOutgoing_refused {buf : Bytes} (noIpv4 : ¬ ∃ ttl, Ipv4Forwardable buf ttl)
    (noIpv6 : ¬ ∃ hopLimit, Ipv6Forwardable buf hopLimit) :
    ∃ reason, prepareOutgoing buf = (.error reason, buf) := by
  by_cases held : 0 < buf.length
  · by_cases four : ipVersion buf held = 4
    · rw [prepareOutgoing, dif_pos held, if_pos four]
      by_cases long : ipv4HeaderLen ≤ buf.length
      · rw [dif_pos long]
        have inside : 8 < buf.length := Nat.lt_of_lt_of_le (by decide) long
        have expired : buf[8] ≤ 1 := by
          by_contra left
          exact noIpv4 ⟨_, held, four, long, List.getElem?_eq_getElem inside, two_le_iff.mpr left⟩
        exact ⟨_, if_pos expired⟩
      · exact ⟨_, dif_neg long⟩
    · rw [prepareOutgoing, dif_pos held, if_neg four]
      by_cases six : ipVersion buf held = 6
      · rw [if_pos six]
        by_cases long : ipv6HeaderLen ≤ buf.length
        · rw [dif_pos long]
          have inside : 7 < buf.length := Nat.lt_of_lt_of_le (by decide) long
          have expired : buf[7] ≤ 1 := by
            by_contra left
            exact noIpv6 ⟨_, held, six, long, List.getElem?_eq_getElem inside, two_le_iff.mpr left⟩
          exact ⟨_, if_pos expired⟩
        · exact ⟨_, dif_neg long⟩
      · exact ⟨_, if_neg six⟩
  · exact ⟨_, dif_neg held⟩

/-! ## The checksum of a forwarded header -/

theorem sumWords_after (index : ℕ) (bytes : Bytes) (sum : ℕ) (past : 10 < index) :
    sumWords index bytes sum = sum + (words bytes).sum := by
  induction bytes using words.induct generalizing index sum with
  | case1 high low rest ih =>
    rw [sumWords, if_neg (by omega), ih _ _ (by omega), words, List.sum_cons]
    omega
  | case2 last =>
    rw [sumWords, if_neg (by omega)]
    simp [words]
  | case3 => simp [sumWords, words]

private theorem sumWords_before {front : Bytes} (index : ℕ) (high low : UInt8) (back : Bytes)
    (sum : ℕ) (even : front.length % 2 = 0) (reaches : index + front.length = 10) :
    sumWords index (front ++ high :: low :: back) sum =
      sum + (words front).sum + (words back).sum := by
  induction front using words.induct generalizing index sum with
  | case1 first second rest ih =>
    simp only [List.length_cons] at even reaches
    rw [List.cons_append, List.cons_append, sumWords, if_neg (by omega),
      ih _ _ (by omega) (by omega), words, List.sum_cons]
    omega
  | case2 last => simp at even
  | case3 =>
    rw [List.length_nil] at reaches
    rw [List.nil_append, sumWords, if_pos (by omega), sumWords_after _ _ _ (by omega)]
    simp [words]

/-- The loop leaves out the checksum word and nothing else. -/
theorem sumWords_around {bytes front back : Bytes} {high low : UInt8}
    (around : Around bytes 10 high low front back) :
    sumWords 0 bytes 0 = (words front).sum + (words back).sum := by
  obtain ⟨rfl, size, even⟩ := around
  rw [sumWords_before 0 high low back 0 (by rw [size]) (by omega)]
  omega

/-- The header length an IPv4 packet states, in bytes. -/
def statedHeaderLen (buf : Bytes) : ℕ := (buf.headD 0 &&& 0x0f).toNat * 4

private theorem calculateIpv4Checksum_eq {header : Bytes} (held : 0 < header.length)
    (inside : statedHeaderLen header ≤ header.length) :
    (calculateIpv4Checksum header held).toNat =
      complement 65536 (settle 65536 (sumWords 0 (header.take (statedHeaderLen header)) 0)) := by
  obtain ⟨first, rest, rfl⟩ := List.exists_cons_of_length_pos held
  rw [← toNat_complement_foldCarries]
  have limit : min ((first &&& 0x0f).toNat * 4) (first :: rest).length =
      statedHeaderLen (first :: rest) := Nat.min_eq_left inside
  simp only [calculateIpv4Checksum, List.getElem_cons_zero]
  rw [limit]

/-- A header that holds its checksum word and lies inside the packet verifies
once that word has been computed. -/
theorem rewritten_header_verifies {header : Bytes} (held : 0 < header.length)
    (least : 12 ≤ statedHeaderLen header) (inside : statedHeaderLen header ≤ header.length) :
    Verifies ((overwrite header 10 (toBeBytes (calculateIpv4Checksum header held))).take
      (statedHeaderLen header)) := by
  have cut : (header.take (statedHeaderLen header)).length = statedHeaderLen header :=
    List.length_take_of_le inside
  obtain ⟨high, low, -, -, around⟩ := around_word (header.take (statedHeaderLen header)) 10 rfl (by omega)
  rw [Splice.overwrite_take least inside, verifies_iff, (around.overwrite _).words_sum,
    Icmp.be16_toBeBytes, calculateIpv4Checksum_eq held inside, sumWords_around around]
  exact settle_add_complement (by omega)

/-- The word at an even offset. -/
def wordAt (buf : Bytes) (offset : ℕ) : Option ℕ := do
  let high : UInt8 ← buf[offset]?
  let low : UInt8 ← buf[offset + 1]?
  some (be16 high low)

/-- The update of a checksum after one word changed, from the old checksum and
the two words only: the complement of `~checksum + ~old + new`. -/
def incrementalUpdate (checksum old new : ℕ) : ℕ :=
  complement 65536
    (OnesComplement.sum 65536 [complement 65536 checksum, complement 65536 old, new])

/-- The bytes around the hop count, the protocol and the checksum of an IPv4
header, before and after the decrement. -/
private theorem hop_word_parts {buf : Bytes} {ttl : UInt8} {size : ℕ} (least : 12 ≤ size)
    (inside : size ≤ buf.length) (hops : buf[8]? = some ttl) (left : UInt8) :
    ∃ front protocol high low back, front.length = 8 ∧ buf[9]? = some protocol ∧
      wordAt buf 10 = some (be16 high low) ∧
      Around (buf.take size) 10 high low (front ++ [ttl, protocol]) back ∧
      Around ((buf.set 8 left).take size) 10 high low (front ++ [left, protocol]) back := by
  have cut : (buf.take size).length = size := List.length_take_of_le inside
  have before (index : ℕ) (held : index < size) : (buf.take size)[index]? = buf[index]? :=
    List.getElem?_take_of_lt held
  obtain ⟨ttl', protocol, atTtl, atProtocol, hopWord⟩ :=
    around_word (buf.take size) 8 rfl (by omega)
  obtain ⟨high, low, atHigh, atLow, -⟩ :=
    around_word (buf.take size) 10 rfl (by omega)
  rw [before 8 (by omega), hops] at atTtl
  cases atTtl
  rw [before 9 (by omega)] at atProtocol
  have behind : (buf.take size).drop (8 + 2) = high :: low :: (buf.take size).drop 12 := by
    obtain ⟨insideHigh, readHigh⟩ := List.getElem?_eq_some_iff.mp atHigh
    obtain ⟨insideLow, readLow⟩ := List.getElem?_eq_some_iff.mp atLow
    rw [List.drop_eq_getElem_cons insideHigh, List.drop_eq_getElem_cons insideLow, readHigh,
      readLow]
  have word : wordAt buf 10 = some (be16 high low) := by
    rw [before 10 (by omega)] at atHigh
    rw [before 11 (by omega)] at atLow
    simp [wordAt, atHigh, atLow]
  obtain ⟨front, back, frontLen, parts⟩ : ∃ front back : Bytes, front.length = 8 ∧
      buf.take size = front ++ ttl :: protocol :: high :: low :: back := by
    have parts := hopWord.parts
    rw [behind] at parts
    exact ⟨_, _, hopWord.size, parts⟩
  refine ⟨front, protocol, high, low, back, frontLen, atProtocol, word,
    ⟨by simp [parts], by simp [frontLen], rfl⟩, ⟨?_, by simp [frontLen], rfl⟩⟩
  rw [List.take_set, parts, List.set_append_right _ _ (by omega), frontLen]
  simp

/-- Where the old header verified, the new checksum is the incremental update of
the old one over the word that holds the hop count. -/
theorem rewritten_checksum_updates {buf : Bytes} {ttl left : UInt8} {old check : ℕ}
    (held : 0 < (buf.set 8 left).length) (least : 12 ≤ statedHeaderLen buf)
    (inside : statedHeaderLen buf ≤ buf.length) (hops : buf[8]? = some ttl)
    (some : 0 < left.toNat) (oldWord : wordAt buf 8 = .some old)
    (oldCheck : wordAt buf 10 = .some check)
    (verified : Verifies (buf.take (statedHeaderLen buf))) :
    ∃ new, wordAt (buf.set 8 left) 8 = .some new ∧
      (calculateIpv4Checksum (buf.set 8 left) held).toNat = incrementalUpdate check old new := by
  obtain ⟨front, protocol, high, low, back, frontLen, atProtocol, atCheck, before, after⟩ :=
    hop_word_parts least inside hops left
  have same : statedHeaderLen (buf.set 8 left) = statedHeaderLen buf := by
    cases buf with
    | nil => rfl
    | cons first rest => rfl
  have size : (buf.set 8 left).length = buf.length := List.length_set
  rw [atCheck] at oldCheck
  cases oldCheck
  have word : old = be16 ttl protocol := by
    simpa [wordAt, hops, atProtocol] using oldWord.symm
  have hopHeld : 8 < buf.length := by omega
  refine ⟨be16 left protocol, by simp [wordAt, atProtocol, hopHeld], ?_⟩
  have newWord : 0 < be16 left protocol := by
    unfold be16
    omega
  have split (hop : UInt8) : (words (front ++ [hop, protocol])).sum =
      (words front).sum + be16 hop protocol := by
    rw [words_append (by omega), List.sum_append]
    simp [words]
  have regroup (hop : UInt8) : (words front).sum + be16 hop protocol + (words back).sum =
      (words front).sum + (words back).sum + be16 hop protocol := by omega
  rw [verifies_iff, before.words_sum, split, regroup] at verified
  have updated := settle_update (be16 left protocol) (by omega) (be16_lt _ _)
    (be16_lt _ _) verified (by omega) (by omega)
  have small : ∀ word ∈ [complement 65536 (be16 high low),
      complement 65536 (be16 ttl protocol), be16 left protocol], word < 65536 := by
    have newBound := be16_lt left protocol
    simp only [List.mem_cons, List.not_mem_nil, or_false, complement]
    rintro word (rfl | rfl | rfl) <;> omega
  rw [calculateIpv4Checksum_eq held (by omega), same, sumWords_around after, split, regroup,
    updated, word, incrementalUpdate, sum_eq_settle (by omega) small]
  simp [Nat.add_assoc]

theorem wordAt_overwrite {buf : Bytes} {offset : ℕ} (value : UInt16)
    (fits : offset + 2 ≤ buf.length) :
    wordAt (overwrite buf offset (toBeBytes value)) offset = some value.toNat := by
  have fitsBytes : offset + (toBeBytes value).length ≤ buf.length := fits
  have high : (overwrite buf offset (toBeBytes value))[offset]? = some (value >>> 8).toUInt8 := by
    rw [Splice.getElem?_overwrite fitsBytes, if_pos (by simp [toBeBytes]), Nat.sub_self]
    rfl
  have low : (overwrite buf offset (toBeBytes value))[offset + 1]? = some value.toUInt8 := by
    rw [Splice.getElem?_overwrite fitsBytes, if_pos (by simp [toBeBytes]),
      Nat.add_sub_cancel_left]
    rfl
  simp only [wordAt, high, low, Option.bind_eq_bind, Option.bind_some, Icmp.be16_toBeBytes]

/-! ## The contract -/

/-- One hop was spent: the hop count is one less, and only the bytes named were
written. -/
structure SpendsHop (buf out : Bytes) (hopAt : ℕ) (written : List ℕ) : Prop where
  size : out.length = buf.length
  spent : ∃ hops left : UInt8, buf[hopAt]? = some hops ∧ out[hopAt]? = some left ∧
    left.toNat + 1 = hops.toNat
  kept : ∀ index, index ∉ written → out[index]? = buf[index]?

/-! What lies outside the written bytes reads as before. -/
section Kept

variable {buf out : Bytes} {hopAt : ℕ} {written : List ℕ}

theorem SpendsHop.range_kept (hop : SpendsHop buf out hopAt written) {start stop : ℕ}
    (apart : ∀ index ∈ written, index < start ∨ stop ≤ index) :
    Splice.range out start stop = Splice.range buf start stop := by
  apply List.ext_getElem?
  intro index
  rw [Splice.getElem?_range, Splice.getElem?_range]
  by_cases inside : index < stop - start
  · rw [if_pos inside, if_pos inside, hop.kept]
    intro touched
    have outside := apart _ touched
    omega
  · rw [if_neg inside, if_neg inside]

theorem SpendsHop.drop_kept (hop : SpendsHop buf out hopAt written) {start : ℕ}
    (before : ∀ index ∈ written, index < start) : out.drop start = buf.drop start := by
  apply List.ext_getElem?
  intro index
  rw [List.getElem?_drop, List.getElem?_drop, hop.kept]
  intro touched
  have outside := before _ touched
  omega

theorem SpendsHop.wordAt_kept (hop : SpendsHop buf out hopAt written) {offset : ℕ}
    (high : offset ∉ written) (low : offset + 1 ∉ written) : wordAt out offset = wordAt buf offset := by
  simp only [wordAt, hop.kept _ high, hop.kept _ low]

theorem SpendsHop.statedHeaderLen_kept (hop : SpendsHop buf out hopAt written)
    (first : 0 ∉ written) : statedHeaderLen out = statedHeaderLen buf := by
  simp only [statedHeaderLen, List.headD_eq_head?_getD, List.head?_eq_getElem?, hop.kept 0 first]

end Kept

/-- What an IPv4 packet becomes. Its header length is the one its first byte
states, options included. -/
structure Ipv4Forwarded (buf out : Bytes) : Prop where
  hop : SpendsHop buf out 8 [8, 10, 11]
  verifies : 12 ≤ statedHeaderLen buf → statedHeaderLen buf ≤ buf.length →
    Verifies (out.take (statedHeaderLen buf))
  updates : 12 ≤ statedHeaderLen buf → statedHeaderLen buf ≤ buf.length →
    Verifies (buf.take (statedHeaderLen buf)) →
    ∃ old new check, wordAt buf 8 = some old ∧ wordAt out 8 = some new ∧
      wordAt buf 10 = some check ∧ wordAt out 10 = some (incrementalUpdate check old new)

theorem wordAt_of_long (buf : Bytes) (offset : ℕ) (inside : offset + 1 < buf.length) :
    ∃ word, wordAt buf offset = some word := by
  have first : offset < buf.length := by omega
  exact ⟨be16 buf[offset] buf[offset + 1], by
    simp [wordAt, List.getElem?_eq_getElem first, List.getElem?_eq_getElem inside]⟩

private theorem spent_one {hops : UInt8} (left : 2 ≤ hops.toNat) :
    (hops - 1).toNat + 1 = hops.toNat := by
  have one : (1 : UInt8) ≤ hops := UInt8.le_iff_toNat_le.mpr (Nat.le_trans (by decide) left)
  rw [UInt8.toNat_sub_of_le _ _ one]
  exact Nat.sub_add_cancel (Nat.le_trans (by decide) left)

theorem ipv4_forwarded {buf : Bytes} {ttl : UInt8} (forwardable : Ipv4Forwardable buf ttl) :
    Ipv4Forwarded buf (prepareOutgoing buf).2 := by
  obtain ⟨held, result⟩ := prepareOutgoing_ipv4 forwardable
  obtain ⟨-, -, whole, hops, left⟩ := forwardable
  have long : 20 ≤ buf.length := whole
  have sameLen : statedHeaderLen (buf.set 8 (ttl - 1)) = statedHeaderLen buf := by
    cases buf with
    | nil => rfl
    | cons first rest => rfl
  have size : (buf.set 8 (ttl - 1)).length = buf.length := List.length_set
  have fits (checksum : UInt16) :
      10 + (toBeBytes checksum).length ≤ (buf.set 8 (ttl - 1)).length := by
    rw [size]
    exact Nat.le_trans (by omega : 12 ≤ 20) long
  have outside (checksum : UInt16) (index : ℕ) (elsewhere : index ≠ 10 ∧ index ≠ 11) :
      (overwrite (buf.set 8 (ttl - 1)) 10 (toBeBytes checksum))[index]? =
        (buf.set 8 (ttl - 1))[index]? := by
    rw [Splice.getElem?_overwrite (fits _), if_neg]
    simp only [toBeBytes, List.length_cons, List.length_nil]
    omega
  rw [result]
  refine ⟨⟨(Splice.overwrite_length (fits _)).trans size, ⟨ttl, ttl - 1, hops, ?_, spent_one left⟩,
    ?_⟩, ?_, ?_⟩
  · rw [outside _ 8 (by omega), List.getElem?_set_self (by omega)]
  · intro index elsewhere
    simp only [List.mem_cons, List.not_mem_nil, or_false, not_or] at elsewhere
    rw [outside _ index elsewhere.2, List.getElem?_set_ne (by omega)]
  · intro least inside
    rw [← sameLen] at least inside ⊢
    exact rewritten_header_verifies held least (by omega)
  · intro least inside verified
    obtain ⟨old, oldWord⟩ := wordAt_of_long buf 8 (by omega)
    obtain ⟨check, oldCheck⟩ := wordAt_of_long buf 10 (by omega)
    have spent := spent_one left
    obtain ⟨new, newWord, updated⟩ := rewritten_checksum_updates held least inside hops (by omega)
      oldWord oldCheck verified
    refine ⟨old, new, check, oldWord, ?_, oldCheck, ?_⟩
    · rw [← newWord]
      simp only [wordAt, outside _ 8 (by omega), outside _ 9 (by omega)]
    · rw [wordAt_overwrite _ (by omega), updated]

theorem ipv6_forwarded {buf : Bytes} {hopLimit : UInt8}
    (forwardable : Ipv6Forwardable buf hopLimit) :
    SpendsHop buf (prepareOutgoing buf).2 7 [7] := by
  rw [prepareOutgoing_ipv6 forwardable]
  obtain ⟨-, -, whole, hops, left⟩ := forwardable
  obtain ⟨inside, -⟩ := List.getElem?_eq_some_iff.mp hops
  refine ⟨List.length_set, ⟨hopLimit, hopLimit - 1, hops, List.getElem?_set_self inside,
    spent_one left⟩, ?_⟩
  intro index elsewhere
  rw [List.mem_singleton] at elsewhere
  exact List.getElem?_set_ne (by omega)

theorem validateIncoming_ipv4 {buf : Bytes} (held : 0 < buf.length)
    (four : ipVersion buf held = 4) (whole : ipv4HeaderLen ≤ buf.length) :
    validateIncoming buf = .ok 4 := by
  rw [validateIncoming, dif_pos held, if_pos four, if_neg (Nat.not_lt.mpr whole)]

theorem validateIncoming_ipv6 {buf : Bytes} (held : 0 < buf.length)
    (six : ipVersion buf held = 6) (whole : ipv6HeaderLen ≤ buf.length) :
    validateIncoming buf = .ok 6 := by
  have other : ¬ ipVersion buf held = 4 := by rw [six]; decide
  rw [validateIncoming, dif_pos held, if_neg other, if_pos six, if_neg (Nat.not_lt.mpr whole)]

theorem ipVersion_of_validated {buf : Bytes} {version : UInt8}
    (accepted : validateIncoming buf = .ok version) : ∃ held, ipVersion buf held = version := by
  unfold validateIncoming at accepted
  split at accepted
  · rename_i held
    refine ⟨held, ?_⟩
    split at accepted
    · rename_i four
      split at accepted <;> cases accepted
      exact four
    · split at accepted
      · rename_i six
        split at accepted <;> cases accepted
        exact six
      · cases accepted
  · cases accepted

private theorem SpendsHop.same_version {buf out : Bytes} {hopAt : ℕ} {written : List ℕ}
    (hop : SpendsHop buf out hopAt written) (first : 0 ∉ written) (held : 0 < buf.length) :
    ∃ heldOut, ipVersion out heldOut = ipVersion buf held := by
  have heldOut : 0 < out.length := by rwa [hop.size]
  exact ⟨heldOut, ipVersion_congr held heldOut (hop.kept 0 first)⟩

/-- The answer to a packet of one version, and that of the check on the way in. -/
structure Accepted (buf : Bytes) (version : UInt8) : Prop where
  answer : (prepareOutgoing buf).1 = .ok version
  before : validateIncoming buf = .ok version
  after : validateIncoming (prepareOutgoing buf).2 = .ok version

theorem ipv4_accepted {buf : Bytes} {ttl : UInt8} (forwardable : Ipv4Forwardable buf ttl) :
    Accepted buf 4 := by
  have hop := (ipv4_forwarded forwardable).hop
  obtain ⟨held, result⟩ := prepareOutgoing_ipv4 forwardable
  obtain ⟨heldOut, same⟩ := hop.same_version (by decide) forwardable.held
  have whole : ipv4HeaderLen ≤ (prepareOutgoing buf).2.length := by
    rw [hop.size]
    exact forwardable.whole
  exact ⟨by rw [result],
    validateIncoming_ipv4 forwardable.held forwardable.version forwardable.whole,
    validateIncoming_ipv4 heldOut (same.trans forwardable.version) whole⟩

theorem ipv6_accepted {buf : Bytes} {hopLimit : UInt8}
    (forwardable : Ipv6Forwardable buf hopLimit) : Accepted buf 6 := by
  have hop := ipv6_forwarded forwardable
  obtain ⟨heldOut, same⟩ := hop.same_version (by decide) forwardable.held
  have whole : ipv6HeaderLen ≤ (prepareOutgoing buf).2.length := by
    rw [hop.size]
    exact forwardable.whole
  exact ⟨by rw [prepareOutgoing_ipv6 forwardable],
    validateIncoming_ipv6 forwardable.held forwardable.version forwardable.whole,
    validateIncoming_ipv6 heldOut (same.trans forwardable.version) whole⟩

/-- `prepare_outgoing` on every buffer: it never panics; it accepts exactly the
packets with a whole header and a hop to spend, and leaves every other buffer as
it was; an accepted packet differs in the bytes named only, its IPv4 header
verifies, by the incremental update where it did before; and what it accepts is
accepted on the way in. -/
theorem prepare_outgoing_contract (buf : Bytes) :
    prepareOutgoingChecked buf = some (prepareOutgoing buf) ∧
    ((prepareOutgoing buf).1 = .ok 4 ↔ ∃ ttl, Ipv4Forwardable buf ttl) ∧
    ((prepareOutgoing buf).1 = .ok 6 ↔ ∃ hopLimit, Ipv6Forwardable buf hopLimit) ∧
    (∀ version, (prepareOutgoing buf).1 = .ok version → version = 4 ∨ version = 6) ∧
    (∀ reason, (prepareOutgoing buf).1 = .error reason → (prepareOutgoing buf).2 = buf) ∧
    ((prepareOutgoing buf).1 = .ok 4 → Ipv4Forwarded buf (prepareOutgoing buf).2) ∧
    ((prepareOutgoing buf).1 = .ok 6 → SpendsHop buf (prepareOutgoing buf).2 7 [7]) ∧
    ∀ version, (prepareOutgoing buf).1 = .ok version →
      validateIncoming buf = .ok version ∧ validateIncoming (prepareOutgoing buf).2 = .ok version := by
  refine ⟨prepareOutgoingChecked_eq buf, ?_⟩
  by_cases ipv4 : ∃ ttl, Ipv4Forwardable buf ttl
  · obtain ⟨ttl, forwardable⟩ := ipv4
    obtain ⟨answer, before, after⟩ := ipv4_accepted forwardable
    have forwarded := ipv4_forwarded forwardable
    have noIpv6 : ¬ ∃ hopLimit, Ipv6Forwardable buf hopLimit := by
      rintro ⟨hopLimit, other⟩
      have clash := forwardable.version.symm.trans other.version
      exact absurd clash (by decide)
    have notSix : (.ok 4 : Except PacketError UInt8) ≠ .ok 6 := by decide
    rw [answer]
    refine ⟨⟨fun _ => ⟨ttl, forwardable⟩, fun _ => rfl⟩,
      ⟨fun six => absurd six notSix, fun six => absurd six noIpv6⟩, ?_, ?_, fun _ => forwarded,
      fun six => absurd six notSix, ?_⟩
    · rintro version ⟨⟩
      exact .inl rfl
    · rintro reason ⟨⟩
    · rintro version ⟨⟩
      exact ⟨before, after⟩
  · by_cases ipv6 : ∃ hopLimit, Ipv6Forwardable buf hopLimit
    · obtain ⟨hopLimit, forwardable⟩ := ipv6
      obtain ⟨answer, before, after⟩ := ipv6_accepted forwardable
      have forwarded := ipv6_forwarded forwardable
      have notFour : (.ok 6 : Except PacketError UInt8) ≠ .ok 4 := by decide
      rw [answer]
      refine ⟨⟨fun four => absurd four notFour, fun four => absurd four ipv4⟩,
        ⟨fun _ => ⟨hopLimit, forwardable⟩, fun _ => rfl⟩, ?_, ?_, fun four => absurd four notFour,
        fun _ => forwarded, ?_⟩
      · rintro version ⟨⟩
        exact .inr rfl
      · rintro reason ⟨⟩
      · rintro version ⟨⟩
        exact ⟨before, after⟩
    · obtain ⟨reason, result⟩ := prepareOutgoing_refused ipv4 ipv6
      have refused (version : UInt8) : (prepareOutgoing buf).1 ≠ .ok version := by
        rw [result]
        rintro ⟨⟩
      refine ⟨⟨fun four => absurd four (refused 4), fun some => absurd some ipv4⟩,
        ⟨fun six => absurd six (refused 6), fun some => absurd some ipv6⟩,
        fun version accepted => absurd accepted (refused version), ?_,
        fun four => absurd four (refused 4), fun six => absurd six (refused 6),
        fun version accepted => absurd accepted (refused version)⟩
      intro _ _
      rw [result]

end Usque.HopDecrement
