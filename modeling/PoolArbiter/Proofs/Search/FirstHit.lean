import Mathlib.Order.Interval.Finset.Nat
import PoolArbiter.Proofs.Words.Bytes
import PoolArbiter.Search.Nonce

/-!
# The first nonce that answers

A digest starts with enough zero bits exactly if, read as a number with its greatest byte
first, it stays below a power of two (`le_leadingZeroBits_iff`). So a scan looks for the least
nonce of its interval whose digest is that small, and `Nonce.findsFirst` says that it finds it
and how many nonces it tries, or that there is none.

`Nonce.searchWords` is the scan in 64-bit words. Its cursor moves on only below the last
nonce, so it never passes the greatest word, and the scan ends there too.
-/

namespace PoolArbiter.Nonce

section Values

variable {byte : UInt8} {rest bytes : List UInt8} {difficulty : Nat}

/-- A byte that is not zero starts with so many zero bits exactly if it is below a power of
two. -/
theorem le_leadingZerosOfByte_iff (nonzero : byte ≠ 0) (few : difficulty ≤ 8) :
    difficulty ≤ leadingZerosOfByte byte ↔ byte.toNat < 2 ^ (8 - difficulty) := by
  have positive : byte.toNat ≠ 0 := fun zero => nonzero (UInt8.toNat_inj.1 zero)
  have small : byte.toNat.log2 < 8 := (Nat.log2_lt positive).2 byte.toNat_lt
  rw [leadingZerosOfByte, if_neg nonzero, ← Nat.log2_lt positive]
  omega

/-- Below a multiple of a unit, the digit decides. -/
theorem add_mul_lt_mul_iff {low unit digit limit : Nat} (inside : low < unit) :
    low + unit * digit < unit * limit ↔ digit < limit := by
  have positive := Nat.zero_lt_of_lt inside
  rw [Nat.mul_comm unit limit, ← Nat.div_lt_iff_lt_mul positive,
    Nat.add_mul_div_left _ _ positive, Nat.div_eq_of_lt inside, Nat.zero_add]

/-- Bytes start with so many zero bits exactly if they have so many bits at all and the
number that they stand for is below a power of two. -/
theorem le_leadingZeroBits_iff :
    difficulty ≤ leadingZeroBits bytes ↔
      difficulty ≤ 8 * bytes.length ∧
        bigEndianValue bytes < 2 ^ (8 * bytes.length - difficulty) := by
  induction bytes generalizing difficulty with
  | nil => exact ⟨fun none => ⟨none, Nat.two_pow_pos _⟩, fun bounds => bounds.1⟩
  | cons byte rest inductionHypothesis =>
      have low := bigEndianValue_lt rest
      rw [leadingZeroBits, bigEndianValue_cons, List.length_cons, Nat.mul_succ]
      rcases Nat.le_total difficulty 8 with few | many
      · have bits : 2 ^ (8 * rest.length + 8 - difficulty) =
            2 ^ (8 * rest.length) * 2 ^ (8 - difficulty) := by
          rw [← Nat.pow_add, Nat.add_sub_assoc few]
        rw [bits, add_mul_lt_mul_iff low]
        split
        next zero =>
          have positive : 0 < 2 ^ (8 - difficulty) := Nat.two_pow_pos _
          rw [zero, UInt8.toNat_zero]
          omega
        next nonzero =>
          rw [le_leadingZerosOfByte_iff nonzero few]
          omega
      · -- The other bytes settle it, unless a bit of the first one is set.
        obtain ⟨further, rfl⟩ := Nat.exists_eq_add_of_le' many
        rw [Nat.add_sub_add_right]
        split
        next zero =>
          rw [Nat.add_comm 8, Nat.add_le_add_iff_right, Nat.add_le_add_iff_right,
            inductionHypothesis, zero]
          rfl
        next nonzero =>
          have started : leadingZerosOfByte byte < 8 := by
            rw [leadingZerosOfByte, if_neg nonzero]
            omega
          have positive : 0 < byte.toNat :=
            Nat.pos_of_ne_zero fun zero => nonzero (UInt8.toNat_inj.1 zero)
          have unit := Nat.le_mul_of_pos_right (2 ^ (8 * rest.length)) positive
          have limit : 2 ^ (8 * rest.length - further) ≤ 2 ^ (8 * rest.length) :=
            Nat.pow_le_pow_right (by decide) (Nat.sub_le _ _)
          omega

end Values

/-- Whether the digest of a payload and a nonce is small enough: below the power of two that
leaves as many zero bits as the difficulty asks for. A digest has 256 bits, so nothing
answers a greater difficulty. -/
def Answers (payload : Payload) (difficulty nonce : Nat) : Prop :=
  difficulty ≤ 256 ∧
    bigEndianValue (Sha256.digest (payload.bytes ++ bytes nonce)) < 2 ^ (256 - difficulty)

/-- The bytes that are compared decide about the leading zeros of the digest. -/
theorem qualifies_iff {payload : Payload} {difficulty nonce : Nat} :
    qualifies payload difficulty nonce = true ↔ Answers payload difficulty nonce := by
  rw [qualifies, decide_eq_true_iff, le_leadingZeroBits_iff, Sha256.length_digest, Answers]

section Scan

variable {test : Nat → Bool} {count start nonce : Nat}

/-- The first of several nonces that passes a test is the least one. -/
theorem firstFrom_eq_some_iff :
    firstFrom test count start = some nonce ↔
      IsLeast {nonce | (start ≤ nonce ∧ nonce < start + count) ∧ test nonce = true} nonce := by
  induction count generalizing start with
  | zero =>
      simp only [firstFrom, reduceCtorEq, false_iff]
      rintro ⟨⟨⟨_, _⟩, _⟩, _⟩
      omega
  | succ count inductionHypothesis =>
      rw [firstFrom]
      split
      next passes =>
        constructor
        · rintro ⟨⟩
          exact ⟨⟨⟨Nat.le_refl _, by omega⟩, passes⟩, fun other found => found.1.1⟩
        · rintro ⟨⟨⟨reached, _⟩, _⟩, least⟩
          have atMost := least ⟨⟨Nat.le_refl start, by omega⟩, passes⟩
          exact congrArg some (Nat.le_antisymm reached atMost)
      next fails =>
        -- The first nonce fails, so the interval may as well start behind it.
        have same : {nonce | (start + 1 ≤ nonce ∧ nonce < start + 1 + count) ∧ test nonce = true} =
            {nonce | (start ≤ nonce ∧ nonce < start + (count + 1)) ∧ test nonce = true} := by
          ext other
          refine and_congr_left fun passes => ?_
          have notFirst : other ≠ start := fun first => fails (first ▸ passes)
          omega
        rw [inductionHypothesis, same]

/-- A search from a start fails if no candidate passes. -/
theorem firstFrom_eq_none_iff :
    firstFrom test count start = none ↔
      ∀ nonce, start ≤ nonce → nonce < start + count → test nonce = false := by
  induction count generalizing start with
  | zero => exact ⟨fun _ nonce reached inside => by omega, fun _ => rfl⟩
  | succ count inductionHypothesis =>
      rw [firstFrom]
      split
      next passes =>
        simp only [reduceCtorEq, false_iff]
        intro fails
        rw [fails start (Nat.le_refl _) (by omega)] at passes
        cases passes
      next fails =>
        rw [inductionHypothesis]
        constructor
        · intro later nonce reached inside
          rcases Nat.eq_or_lt_of_le reached with rfl | behind
          · exact Bool.eq_false_of_not_eq_true fails
          · exact later nonce behind (by omega)
        · intro all nonce reached inside
          exact all nonce (by omega) (by omega)

/-- Number of nonces that a search for the first one tries. -/
def tried (test : Nat → Bool) (count start : Nat) : Nat :=
  match firstFrom test count start with
  | some nonce => nonce + 1 - start
  | none => count

/-- A first candidate that passes ends the search. -/
theorem tried_of_passes (passes : test start = true) : tried test (count + 1) start = 1 := by
  simp [tried, firstFrom, passes]

/-- A first candidate that fails counts, and the search goes on. -/
theorem tried_of_fails (fails : test start = false) :
    tried test (count + 1) start = tried test count (start + 1) + 1 := by
  have same : firstFrom test (count + 1) start = firstFrom test count (start + 1) := by
    simp [firstFrom, fails]
  rw [tried, tried, same]
  split
  next found =>
    have behind := (firstFrom_eq_some_iff.1 found).1.1.1
    omega
  next => rfl

/-- No more candidates are tried than there are. -/
theorem tried_le : tried test count start ≤ count := by
  rw [tried]
  split
  next found =>
    have inside := (firstFrom_eq_some_iff.1 found).1.1.2
    omega
  next => exact Nat.le_refl _

end Scan

/-- The nonces of a scan: those of the range, as far as the budget and the words reach. -/
def interval (range : SearchRange) (budget : Nat) : Finset Nat :=
  Finset.Icc range.lo (min range.hi (min (range.lo + budget - 1) greatest))

section Search

variable {payload : Payload} {range : SearchRange} {difficulty budget nonce : Nat}

/-- With a budget the candidates reach from the start of the range to the end of the scan. -/
theorem interval_eq (positive : 0 < budget) :
    interval range budget = Finset.Icc range.lo (scanEnd range budget) := by
  rw [interval, scanEnd, Nat.add_sub_assoc positive]

/-- A candidate is within the scanned length from the start of the range. -/
theorem mem_interval_iff (positive : 0 < budget) :
    nonce ∈ interval range budget ↔
      range.lo ≤ nonce ∧ nonce < range.lo + scanLength range budget := by
  rw [interval_eq positive, Finset.mem_Icc, scanLength]
  omega

/-- There are as many candidates as the scan is long. -/
theorem card_interval (positive : 0 < budget) :
    (interval range budget).card = scanLength range budget := by
  rw [interval_eq positive, Nat.card_Icc, scanLength]

/-- The scan is no longer than the budget. -/
theorem scanLength_le (positive : 0 < budget) : scanLength range budget ≤ budget := by
  rw [scanLength, scanEnd]
  omega

/-- The search counts the candidates that it tries. -/
theorem scanned_eq (payload : Payload) (range : SearchRange) (difficulty budget : Nat) :
    (search payload range difficulty budget).2 =
      tried (qualifies payload difficulty) (scanLength range budget) range.lo := by
  rw [search, tried]
  cases firstFrom (qualifies payload difficulty) (scanLength range budget) range.lo <;> rfl

/-- The least nonce of the interval that answers is found. -/
theorem search_of_isLeast (positive : 0 < budget)
    (least : IsLeast {nonce | nonce ∈ interval range budget ∧ Answers payload difficulty nonce}
      nonce) :
    search payload range difficulty budget = (.found (bytes nonce), nonce - range.lo + 1) := by
  simp only [mem_interval_iff positive, ← qualifies_iff] at least
  have reached := least.1.1.1
  rw [search, firstFrom_eq_some_iff.2 least]
  dsimp only
  rw [Nat.sub_add_comm reached]

/-- Without one the whole interval is tried. -/
theorem search_of_none (positive : 0 < budget)
    (none : ∀ nonce ∈ interval range budget, ¬ Answers payload difficulty nonce) :
    search payload range difficulty budget = (.exhausted, (interval range budget).card) := by
  have fails : firstFrom (qualifies payload difficulty) (scanLength range budget) range.lo =
      Option.none := by
    refine firstFrom_eq_none_iff.2 fun nonce reached inside => ?_
    have unanswered := none nonce ((mem_interval_iff positive).2 ⟨reached, inside⟩)
    exact Bool.eq_false_of_not_eq_true (mt qualifies_iff.1 unanswered)
  rw [search, card_interval positive, fails]

end Search

section Words

/-- The sum of two words, or the greatest word if the sum is none. -/
def saturatingSum (first second : UInt64) : UInt64 :=
  UInt64.ofNat (min (first.toNat + second.toNat) greatest)

/-- The last word of a scan. -/
def lastWord (lo hi budget : UInt64) : UInt64 :=
  let last := saturatingSum lo (budget - 1)
  if hi ≤ last then hi else last

/-- Below the greatest word the next word is the next number. -/
theorem toNat_succ {word : UInt64} (room : word.toNat < greatest) :
    (word + 1).toNat = word.toNat + 1 := by
  rw [greatest] at room
  rw [UInt64.toNat_add, UInt64.toNat_one]
  omega

/-- Before the last word the cursor does not overflow. -/
theorem toNat_succ_of_lt {cursor last : UInt64} (below : cursor < last) :
    (cursor + 1).toNat = cursor.toNat + 1 :=
  toNat_succ (Nat.lt_of_lt_of_le (UInt64.lt_iff_toNat_lt.1 below)
    (Nat.le_of_lt_succ last.toNat_lt))

/-- Try the words from a cursor to a last one, and count those that were tried. The cursor
moves on only below the last word. -/
def scanWords (test : Nat → Bool) (last cursor scanned : UInt64) : Option UInt64 × UInt64 :=
  if cursor ≤ last then
    if test cursor.toNat then (some cursor, scanned + 1)
    else if cursor < last then scanWords test last (cursor + 1) (scanned + 1)
    else (none, scanned + 1)
  else (none, scanned)
termination_by last.toNat - cursor.toNat
decreasing_by
  next below =>
    rw [toNat_succ_of_lt below]
    have := UInt64.lt_iff_toNat_lt.1 below
    omega

/-- Scan a range in words. -/
def searchWords (payload : Payload) (lo hi : UInt64) (difficulty : Nat) (budget : UInt64) :
    Outcome × UInt64 :=
  match scanWords (qualifies payload difficulty) (lastWord lo hi budget) lo 0 with
  | (some nonce, scanned) => (.found (bytes nonce.toNat), scanned)
  | (none, scanned) => (.exhausted, scanned)

variable {test : Nat → Bool} {last cursor scanned lo hi budget : UInt64}

/-- The last word to scan is the end of the scan. -/
theorem toNat_lastWord (positive : 0 < budget) :
    (lastWord lo hi budget).toNat = scanEnd ⟨lo.toNat, hi.toNat⟩ budget.toNat := by
  have one : 1 ≤ budget.toNat := UInt64.lt_iff_toNat_lt.1 positive
  have pred : (budget - 1).toNat = budget.toNat - 1 :=
    UInt64.toNat_sub_of_le _ _ (UInt64.le_iff_toNat_le.2 one)
  have sum : (saturatingSum lo (budget - 1)).toNat =
      min (lo.toNat + (budget.toNat - 1)) greatest := by
    rw [saturatingSum, UInt64.toNat_ofNat', pred, greatest]
    omega
  rw [lastWord, scanEnd]
  dsimp only
  rw [← sum]
  split
  next before =>
    have := UInt64.le_iff_toNat_le.1 before
    omega
  next behind =>
    have := mt UInt64.le_iff_toNat_le.2 behind
    omega

/-- The scan in words finds what the search from the cursor finds, and tries as many words. -/
theorem scanWords_eq
    (room : scanned.toNat + (last.toNat + 1 - cursor.toNat) ≤ greatest) :
    scanWords test last cursor scanned =
      ((firstFrom test (last.toNat + 1 - cursor.toNat) cursor.toNat).map UInt64.ofNat,
        UInt64.ofNat
          (scanned.toNat + tried test (last.toNat + 1 - cursor.toNat) cursor.toNat)) := by
  fun_induction scanWords test last cursor scanned with
  | case1 cursor scanned inside passes =>
      have inside := UInt64.le_iff_toNat_le.1 inside
      have count : last.toNat + 1 - cursor.toNat = last.toNat - cursor.toNat + 1 := by omega
      rw [count, tried_of_passes passes, ← toNat_succ (by omega), UInt64.ofNat_toNat]
      simp [firstFrom, passes]
  | case2 cursor scanned inside fails below inductionHypothesis =>
      have moved := toNat_succ_of_lt below
      have below := UInt64.lt_iff_toNat_lt.1 below
      have fails := Bool.eq_false_of_not_eq_true fails
      have counted : (scanned + 1).toNat = scanned.toNat + 1 := toNat_succ (by omega)
      have count : last.toNat + 1 - cursor.toNat = last.toNat + 1 - (cursor.toNat + 1) + 1 := by
        omega
      rw [inductionHypothesis (by omega), moved, counted, count, tried_of_fails fails,
        Nat.add_assoc, Nat.add_comm 1]
      simp [firstFrom, fails]
  | case3 cursor scanned inside fails ended =>
      have inside := UInt64.le_iff_toNat_le.1 inside
      have ended := mt UInt64.lt_iff_toNat_lt.2 ended
      have fails := Bool.eq_false_of_not_eq_true fails
      have count : last.toNat + 1 - cursor.toNat = 0 + 1 := by omega
      rw [count, tried_of_fails fails, tried, ← UInt64.ofNat_toNat (x := scanned + 1),
        toNat_succ (by omega)]
      simp [firstFrom, fails]
  | case4 cursor scanned outside =>
      have outside := mt UInt64.le_iff_toNat_le.2 outside
      have count : last.toNat + 1 - cursor.toNat = 0 := by omega
      simp [count, firstFrom, tried]

/-- The scan in words gives what the scan of the range gives. -/
theorem searchWords_eq (payload : Payload) (difficulty : Nat) (positive : 0 < budget) :
    searchWords payload lo hi difficulty budget =
      ((search payload ⟨lo.toNat, hi.toNat⟩ difficulty budget.toNat).1,
        UInt64.ofNat (search payload ⟨lo.toNat, hi.toNat⟩ difficulty budget.toNat).2) := by
  have last : (lastWord lo hi budget).toNat = scanEnd ⟨lo.toNat, hi.toNat⟩ budget.toNat :=
    toNat_lastWord positive
  have few : scanLength ⟨lo.toNat, hi.toNat⟩ budget.toNat ≤ budget.toNat :=
    scanLength_le (UInt64.lt_iff_toNat_lt.1 positive)
  have count : (lastWord lo hi budget).toNat + 1 - lo.toNat =
      scanLength ⟨lo.toNat, hi.toNat⟩ budget.toNat := by
    rw [last, scanLength]
  have room : (0 : UInt64).toNat + ((lastWord lo hi budget).toNat + 1 - lo.toNat) ≤ greatest := by
    rw [count, UInt64.toNat_zero, Nat.zero_add]
    exact few.trans (Nat.le_of_lt_succ budget.toNat_lt)
  rw [scanned_eq, searchWords, scanWords_eq room, count, UInt64.toNat_zero, Nat.zero_add, search]
  dsimp only
  cases found : firstFrom (qualifies payload difficulty)
      (scanLength ⟨lo.toNat, hi.toNat⟩ budget.toNat) lo.toNat with
  | none => rfl
  | some nonce =>
      -- The nonce is a word, so it stands for itself.
      obtain ⟨reached, inside⟩ := (firstFrom_eq_some_iff.1 found).1.1
      rw [← count] at inside
      have bounded := (lastWord lo hi budget).toNat_lt
      have same : (UInt64.ofNat nonce).toNat = nonce := by
        rw [UInt64.toNat_ofNat']
        omega
      simp only [Option.map_some, same]

end Words

/-- A scan finds the first nonce of its interval that answers. -/
structure FindsFirst (payload : Payload) (lo hi : UInt64) (difficulty : Nat) (budget : UInt64) :
    Prop where
  /-- The least nonce that answers is found. -/
  found : ∀ nonce,
    IsLeast {nonce | nonce ∈ interval ⟨lo.toNat, hi.toNat⟩ budget.toNat ∧
      Answers payload difficulty nonce} nonce →
    search payload ⟨lo.toNat, hi.toNat⟩ difficulty budget.toNat =
      (.found (bytes nonce), nonce - lo.toNat + 1)
  /-- If no nonce answers, all of them were tried. -/
  exhausted : (∀ nonce ∈ interval ⟨lo.toNat, hi.toNat⟩ budget.toNat,
      ¬ Answers payload difficulty nonce) →
    search payload ⟨lo.toNat, hi.toNat⟩ difficulty budget.toNat =
      (.exhausted, (interval ⟨lo.toNat, hi.toNat⟩ budget.toNat).card)
  /-- The bytes of a nonce are its eight bytes, least byte first. -/
  written : ∀ nonce ∈ interval ⟨lo.toNat, hi.toNat⟩ budget.toNat,
    (bytes nonce).length = 8 ∧ littleEndianValue (bytes nonce) = nonce
  scanned_le : (search payload ⟨lo.toNat, hi.toNat⟩ difficulty budget.toNat).2 ≤ budget.toNat
  /-- In words the scan ends with the same result, wherever the range ends. -/
  words : searchWords payload lo hi difficulty budget =
    ((search payload ⟨lo.toNat, hi.toNat⟩ difficulty budget.toNat).1,
      UInt64.ofNat (search payload ⟨lo.toNat, hi.toNat⟩ difficulty budget.toNat).2)

/-- Every scan with a budget finds the first nonce that answers. -/
theorem findsFirst (payload : Payload) (lo hi : UInt64) (difficulty : Nat) (budget : UInt64)
    (positive : 0 < budget) : FindsFirst payload lo hi difficulty budget where
  found _ least := search_of_isLeast (UInt64.lt_iff_toNat_lt.1 positive) least
  exhausted none := search_of_none (UInt64.lt_iff_toNat_lt.1 positive) none
  written nonce inside := by
    rw [interval, Finset.mem_Icc, greatest] at inside
    exact ⟨Sha256.length_littleEndian 8 nonce, littleEndianValue_littleEndian (by omega)⟩
  scanned_le := by
    rw [scanned_eq]
    exact tried_le.trans (scanLength_le (UInt64.lt_iff_toNat_lt.1 positive))
  words := searchWords_eq payload difficulty positive

/-- The last nonce of all answers, and the scan that reaches it ends there. -/
theorem findsFirst_of_greatest :
    0 < (100 : UInt64) ∧
      search ⟨[4]⟩ ⟨0xFFFFFFFFFFFFFFFA, greatest⟩ 3 100 = (.found (bytes greatest), 6) ∧
      FindsFirst ⟨[4]⟩ 0xFFFFFFFFFFFFFFFA 0xFFFFFFFFFFFFFFFF 3 100 :=
  ⟨by decide, by decide +kernel, findsFirst ⟨[4]⟩ _ _ 3 100 (by decide)⟩

end PoolArbiter.Nonce
