/-!
# Sets of characters

A set of code points as the places where membership changes, in order: the code points from the
first place on belong to it, those from the second on do not, and so forth. The main statements say
that membership in a set made of two follows from membership in these.
-/
namespace VideoCapture.Pattern

/-- Whether a number lies after an odd number of changes. -/
def oddAt (changes : List Nat) (n : Nat) : Bool := changes.countP (· ≤ n) % 2 = 1

/-- A change in front, if a function of two memberships changes with them. -/
def changeAt (x : Nat) (before after : Bool) (later : List Nat) : List Nat :=
  if before = after then later else x :: later

/-- The places where a function of two memberships changes. `l` and `r` say whether the places
    before belong to the sets. -/
def combineChanges (f : Bool → Bool → Bool) (l r : Bool) : List Nat → List Nat → List Nat
  | [], [] => []
  | x :: xs, [] => changeAt x (f l r) (f (!l) r) (combineChanges f (!l) r xs [])
  | [], y :: ys => changeAt y (f l r) (f l (!r)) (combineChanges f l (!r) [] ys)
  | x :: xs, y :: ys =>
    if x < y then changeAt x (f l r) (f (!l) r) (combineChanges f (!l) r xs (y :: ys))
    else if y < x then changeAt y (f l r) (f l (!r)) (combineChanges f l (!r) (x :: xs) ys)
    else changeAt x (f l r) (f (!l) (!r)) (combineChanges f (!l) (!r) xs ys)

@[simp] theorem oddAt_nil (n : Nat) : oddAt [] n = false := rfl

theorem oddAt_cons (x : Nat) (xs : List Nat) (n : Nat) :
    oddAt (x :: xs) n = (decide (x ≤ n) != oddAt xs n) := by
  simp only [oddAt,List.countP_cons]
  by_cases h : x ≤ n
  · simp only [h,decide_true,↓reduceIte]
    generalize List.countP _ xs = k
    rcases Nat.mod_two_eq_zero_or_one k with hk | hk <;> simp [hk,Nat.add_mod]
  · simp [h]

theorem oddAt_of_lt {xs : List Nat} {n : Nat} (h : ∀ x ∈ xs, n < x) : oddAt xs n = false := by
  have : xs.countP (· ≤ n) = 0 := List.countP_eq_zero.2 fun x hx => by
    have := h x hx
    simp; omega
  simp [oddAt,this]

theorem oddAt_of_pairwise {x n : Nat} {xs : List Nat} (h : (x :: xs).Pairwise (· < ·))
    (hn : n < x) : oddAt xs n = false ∧ oddAt (x :: xs) n = false := by
  have later : oddAt xs n = false :=
    oddAt_of_lt fun y hy => Nat.lt_trans hn (List.rel_of_pairwise_cons h hy)
  exact ⟨later,by simp [oddAt_cons,later]; omega⟩

/-- A change in front counts from its place on, if the later ones tell `w` and nothing before. -/
theorem bne_oddAt_changeAt {x n : Nat} {b c w : Bool} {later : List Nat}
    (hw : (c != oddAt later n) = w) (hn : n < x → w = c) :
    (b != oddAt (changeAt x b c later) n) = if x ≤ n then w else b := by
  subst hw
  unfold changeAt
  by_cases hx : x ≤ n
  · cases b <;> cases c <;> simp [oddAt_cons,hx]
  · have := hn (by omega)
    cases b <;> cases c <;> simp_all [oddAt_cons]

/-- Changes are where membership as the function tells it changes. -/
theorem oddAt_combineChanges (f : Bool → Bool → Bool) (l r : Bool) (xs ys : List Nat) (n : Nat)
    (hx : xs.Pairwise (· < ·)) (hy : ys.Pairwise (· < ·)) :
    (f l r != oddAt (combineChanges f l r xs ys) n) =
      f (l != oddAt xs n) (r != oddAt ys n) := by
  fun_induction combineChanges f l r xs ys with
  | case1 => simp
  | case2 l r x xs ih =>
    rw [bne_oddAt_changeAt (ih hx.of_cons .nil)]
    · by_cases h : x ≤ n
      · simp [oddAt_cons,h]
      · simp [h,oddAt_of_pairwise hx (Nat.lt_of_not_le h)]
    · intro h; simp [oddAt_of_pairwise hx h]
  | case3 l r y ys ih =>
    rw [bne_oddAt_changeAt (ih .nil hy.of_cons)]
    · by_cases h : y ≤ n
      · simp [oddAt_cons,h]
      · simp [h,oddAt_of_pairwise hy (Nat.lt_of_not_le h)]
    · intro h; simp [oddAt_of_pairwise hy h]
  | case4 l r x xs y ys hlt ih =>
    rw [bne_oddAt_changeAt (ih hx.of_cons hy)]
    · by_cases h : x ≤ n
      · simp [oddAt_cons x,h]
      · have hn := Nat.lt_of_not_le h
        simp [h,oddAt_of_pairwise hx hn,oddAt_of_pairwise hy (Nat.lt_trans hn hlt)]
    · intro h; simp [oddAt_of_pairwise hx h,oddAt_of_pairwise hy (Nat.lt_trans h hlt)]
  | case5 l r x xs y ys hle hlt ih =>
    rw [bne_oddAt_changeAt (ih hx hy.of_cons)]
    · by_cases h : y ≤ n
      · simp [oddAt_cons y,h]
      · have hn := Nat.lt_of_not_le h
        simp [h,oddAt_of_pairwise hy hn,oddAt_of_pairwise hx (Nat.lt_trans hn hlt)]
    · intro h; simp [oddAt_of_pairwise hy h,oddAt_of_pairwise hx (Nat.lt_trans h hlt)]
  | case6 l r x xs y ys hxy hyx ih =>
    obtain rfl : x = y := by omega
    rw [bne_oddAt_changeAt (ih hx.of_cons hy.of_cons)]
    · by_cases h : x ≤ n
      · simp [oddAt_cons x,h]
      · have hn := Nat.lt_of_not_le h
        simp [h,oddAt_of_pairwise hx hn,oddAt_of_pairwise hy hn]
    · intro h; simp [oddAt_of_pairwise hx h,oddAt_of_pairwise hy h]

theorem mem_of_mem_changeAt {x z : Nat} {b c : Bool} {later : List Nat}
    (h : z ∈ changeAt x b c later) : z = x ∨ z ∈ later := by
  unfold changeAt at h
  split at h
  · exact .inr h
  · exact List.mem_cons.1 h

theorem mem_of_mem_combineChanges {f : Bool → Bool → Bool} {l r : Bool} {xs ys : List Nat} {z : Nat}
    (h : z ∈ combineChanges f l r xs ys) : z ∈ xs ∨ z ∈ ys := by
  fun_induction combineChanges f l r xs ys <;> grind [mem_of_mem_changeAt]

theorem pairwise_combineChanges {f : Bool → Bool → Bool} {l r : Bool} {xs ys : List Nat}
    (hx : xs.Pairwise (· < ·)) (hy : ys.Pairwise (· < ·)) :
    (combineChanges f l r xs ys).Pairwise (· < ·) := by
  have place {x : Nat} {b c : Bool} {later : List Nat} (hl : later.Pairwise (· < ·))
      (h : ∀ z ∈ later, x < z) : (changeAt x b c later).Pairwise (· < ·) := by
    unfold changeAt
    split
    · exact hl
    · exact List.pairwise_cons.2 ⟨h,hl⟩
  have after {x : Nat} {l r : Bool} {xs ys : List Nat} (hx : ∀ z ∈ xs, x < z)
      (hy : ∀ z ∈ ys, x < z) : ∀ z ∈ combineChanges f l r xs ys, x < z := fun z hz =>
    (mem_of_mem_combineChanges hz).elim (hx z) (hy z)
  fun_induction combineChanges f l r xs ys with
  | case1 => exact .nil
  | case2 l r x xs ih =>
    obtain ⟨hlt,hx⟩ := List.pairwise_cons.1 hx
    exact place (ih hx .nil) (after hlt (by simp))
  | case3 l r y ys ih =>
    obtain ⟨hlt,hy⟩ := List.pairwise_cons.1 hy
    exact place (ih .nil hy) (after (by simp) hlt)
  | case4 l r x xs y ys h ih =>
    obtain ⟨hlt,hx⟩ := List.pairwise_cons.1 hx
    refine place (ih hx hy) (after hlt fun z hz => ?_)
    rcases List.mem_cons.1 hz with rfl | hz
    · exact h
    · exact Nat.lt_trans h (List.rel_of_pairwise_cons hy hz)
  | case5 l r x xs y ys _ h ih =>
    obtain ⟨hlt,hy⟩ := List.pairwise_cons.1 hy
    refine place (ih hx hy) (after (fun z hz => ?_) hlt)
    rcases List.mem_cons.1 hz with rfl | hz
    · exact h
    · exact Nat.lt_trans h (List.rel_of_pairwise_cons hx hz)
  | case6 l r x xs y ys hxy hyx ih =>
    obtain rfl : x = y := by omega
    obtain ⟨hltx,hx⟩ := List.pairwise_cons.1 hx
    obtain ⟨hlty,hy⟩ := List.pairwise_cons.1 hy
    exact place (ih hx hy) (after hltx hlty)

/-- A set of code points. -/
structure CharSet where
  changes : List Nat
  ordered : changes.Pairwise (· < ·)
  deriving DecidableEq, Repr

namespace CharSet

def none : CharSet := ⟨[],.nil⟩

instance : Inhabited CharSet := ⟨none⟩

private theorem ordered_ends {first last : Nat} (h : first ≤ last) :
    [first,last + 1].Pairwise (· < ·) :=
  .cons (by simp; omega) (.cons (by simp) .nil)

/-- The code points from one to another, both included; none if these are not in order. -/
def range (first last : Nat) : CharSet :=
  if h : first ≤ last then ⟨[first,last + 1],ordered_ends h⟩ else none

def contains (s : CharSet) (n : Nat) : Bool := oddAt s.changes n

def combine (f : Bool → Bool → Bool) (a b : CharSet) : CharSet :=
  ⟨combineChanges f false false a.changes b.changes,pairwise_combineChanges a.ordered b.ordered⟩

/-- A code point belongs to a set made of two as the function says. -/
theorem contains_combine {f : Bool → Bool → Bool} (h : f false false = false) (a b : CharSet)
    (n : Nat) : (combine f a b).contains n = f (a.contains n) (b.contains n) := by
  simpa [h,contains,combine] using
    oddAt_combineChanges f false false a.changes b.changes n a.ordered b.ordered

@[simp] theorem contains_none (n : Nat) : none.contains n = false := rfl

@[simp] theorem contains_range (first last n : Nat) :
    (range first last).contains n = (decide (first ≤ n) && decide (n ≤ last)) := by
  by_cases h : first ≤ last
  · simp only [range,h,↓reduceDIte,contains,oddAt_cons,oddAt_nil]
    grind
  · simp only [range,h,↓reduceDIte,contains_none]
    grind

def union : CharSet → CharSet → CharSet := combine or

def inter : CharSet → CharSet → CharSet := combine and

def diff : CharSet → CharSet → CharSet := combine fun a b => a && !b

def symmDiff : CharSet → CharSet → CharSet := combine xor

@[simp] theorem contains_union (a b : CharSet) (n : Nat) :
    (a.union b).contains n = (a.contains n || b.contains n) := contains_combine rfl a b n

@[simp] theorem contains_inter (a b : CharSet) (n : Nat) :
    (a.inter b).contains n = (a.contains n && b.contains n) := contains_combine rfl a b n

@[simp] theorem contains_diff (a b : CharSet) (n : Nat) :
    (a.diff b).contains n = (a.contains n && !b.contains n) := contains_combine rfl a b n

@[simp] theorem contains_symmDiff (a b : CharSet) (n : Nat) :
    (a.symmDiff b).contains n = xor (a.contains n) (b.contains n) := contains_combine rfl a b n

def ofRanges (ranges : List (Nat × Nat)) : CharSet :=
  ranges.foldr (fun (first,last) s => (range first last).union s) none

theorem contains_ofRanges (ranges : List (Nat × Nat)) (n : Nat) :
    (ofRanges ranges).contains n =
      ranges.any fun (first,last) => decide (first ≤ n) && decide (n ≤ last) := by
  induction ranges with
  | nil => rfl
  | cons r ranges ih => simpa [ofRanges] using congrArg _ ih

def all : CharSet := range 0 0x10FFFF

def characters : CharSet := ofRanges [(0,0xD7FF),(0xE000,0x10FFFF)]

theorem contains_characters (c : Char) : characters.contains c.toNat = true := by
  have := c.valid
  simp only [characters,contains_ofRanges,List.any_cons,List.any_nil]
  simp only [UInt32.isValidChar,Nat.isValidChar] at this
  simp only [Char.toNat]
  grind

/-- A character with a code point of a character has that code point. -/
theorem eq_ofNat_iff {n : Nat} (h : characters.contains n = true) (c : Char) :
    c = Char.ofNat n ↔ c.toNat = n := by
  have valid : n.isValidChar := by
    simp only [characters,contains_ofRanges,List.any_cons,List.any_nil] at h
    simp only [Nat.isValidChar]
    grind
  have back : (Char.ofNat n).toNat = n := by rw [Char.ofNat,dif_pos valid]; rfl
  constructor
  · rintro rfl; exact back
  · rintro rfl; exact (Char.ofNat_toNat c).symm

def octets : CharSet := range 0 0xFF

/-- The ranges of a set, without one that has no end. -/
def ranges (s : CharSet) : List (Nat × Nat) := pairs s.changes
where
  /-- Places taken in twos, with the second one step back. -/
  pairs : List Nat → List (Nat × Nat)
    | first :: after :: rest => (first,after - 1) :: pairs rest
    | _ => []

def isAscii (s : CharSet) : Bool := s.changes.all (· ≤ 0x80)

def otherCase? (n : Nat) : Option Nat :=
  if 0x41 ≤ n ∧ n ≤ 0x5A then some (n + 0x20)
  else if 0x61 ≤ n ∧ n ≤ 0x7A then some (n - 0x20)
  else .none

def bothCases (s : CharSet) : CharSet :=
  let letters := (List.range 0x7B).filter s.contains
  (letters.filterMap otherCase?).foldr (fun n s => (range n n).union s) s

/-- Letters are each other's other case, and ASCII. -/
theorem otherCase?_eq_some {m n : Nat} (h : otherCase? m = some n) :
    otherCase? n = some m ∧ m < 0x7B := by
  unfold otherCase? at *
  grind

/-- A code point belongs to a set with both cases if it or its other case belongs to the set. -/
theorem contains_bothCases (s : CharSet) (n : Nat) :
    s.bothCases.contains n = (s.contains n || (otherCase? n).any s.contains) := by
  have more (ns : List Nat) :
      (ns.foldr (fun n s => (range n n).union s) s).contains n =
        (ns.contains n || s.contains n) := by
    induction ns with
    | nil => rfl
    | cons m ns ih =>
      simp only [List.foldr_cons,contains_union,ih,contains_range,List.contains_cons]
      grind
  rw [bothCases,more,Bool.or_comm,Bool.eq_iff_iff]
  simp only [Bool.or_eq_true,List.contains_eq_mem,decide_eq_true_eq,List.mem_filterMap,
    List.mem_filter,List.mem_range,Option.any_eq_true]
  refine or_congr_right ⟨?_,?_⟩
  · rintro ⟨m,⟨_,hm⟩,h⟩
    exact ⟨m,(otherCase?_eq_some h).1,hm⟩
  · rintro ⟨m,h,hm⟩
    have h := (otherCase?_eq_some h).1
    exact ⟨m,⟨(otherCase?_eq_some h).2,hm⟩,h⟩

def single? (s : CharSet) : Option Nat :=
  match s.changes with
  | [first,after] => if after = first + 1 then some first else .none
  | _ => .none

theorem contains_of_single? {s : CharSet} {m : Nat} (h : s.single? = some m) (n : Nat) :
    s.contains n = decide (n = m) := by
  unfold single? at h
  split at h
  · rename_i first after hc
    split at h
    · cases h
      simp only [contains,hc,oddAt_cons,oddAt_nil]
      grind
    · cases h
  · cases h

end CharSet
end VideoCapture.Pattern
