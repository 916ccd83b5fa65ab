import Mathlib.Data.List.Basic
import Mathlib.Data.List.TakeWhile
import VideoCapture.Text.Blank
import VideoCapture.Text.Numeral
/-!
# Numerals with white space around them

What is left of a text when the white space at its ends is taken off (`Text.trim_eq_iff`), and which texts denote a
number: one or more digits after at most one plus sign, with as many zeros in front as one likes
(`Numeral.word32?_eq_some_iff`). The digits that a number is printed with denote it (`Numeral.denotes_toDigits`), and
digits that mean the same number are the same but for zeros in front (`Numeral.ofDigitChars_eq_iff`).
-/
namespace VideoCapture

namespace Text

/-- A text with white space around it, or without. -/
def Padded (body cs : List Char) : Prop :=
  ∃ front back, cs = front ++ body ++ back ∧ (∀ c ∈ front, isBlank c = true) ∧ ∀ c ∈ back, isBlank c = true

/-- A text that neither begins nor ends with white space. -/
def Tight (cs : List Char) : Prop :=
  (∀ c ∈ cs.head?, isBlank c = false) ∧ ∀ c ∈ cs.getLast?, isBlank c = false

theorem dropWhile_of_tight {cs : List Char} (tight : ∀ c ∈ cs.head?, isBlank c = false) : cs.dropWhile isBlank = cs := by
  cases cs with
  | nil => rfl
  | cons c cs => simp [tight c rfl]

theorem padded_trim (cs : List Char) : Padded (trim cs) cs := by
  have front := List.takeWhile_append_dropWhile (p := isBlank) (l := cs)
  have back := List.takeWhile_append_dropWhile (p := isBlank) (l := (cs.dropWhile isBlank).reverse)
  refine ⟨cs.takeWhile isBlank,((cs.dropWhile isBlank).reverse.takeWhile isBlank).reverse,?_,?_,?_⟩
  · rw [List.append_assoc,trim,trimEnd,← List.reverse_append,back,List.reverse_reverse,front]
  · intro c member
    exact List.mem_takeWhile_imp member
  · intro c member
    exact List.mem_takeWhile_imp (List.mem_reverse.mp member)

theorem trim_eq_iff {cs body : List Char} (tight : Tight body) : trim cs = body ↔ Padded body cs := by
  constructor
  · rintro rfl
    exact padded_trim cs
  · rintro ⟨front,back,rfl,blankFront,blankBack⟩
    have blankBack' : ∀ c ∈ back.reverse, isBlank c = true := fun c member => blankBack c (List.mem_reverse.mp member)
    rw [trim,trimEnd,List.append_assoc,List.dropWhile_append_of_pos blankFront]
    by_cases empty : body = []
    · subst empty
      have nothing : back.dropWhile isBlank = [] := List.dropWhile_eq_nil_iff.mpr blankBack
      rw [List.nil_append,nothing]
      rfl
    · have begins : ∀ c ∈ (body ++ back).head?, isBlank c = false := by
        rw [List.head?_append_of_ne_nil _ empty]
        exact tight.1
      have ends : ∀ c ∈ body.reverse.head?, isBlank c = false := by
        rw [List.head?_reverse]
        exact tight.2
      rw [dropWhile_of_tight begins,List.reverse_append,List.dropWhile_append_of_pos blankBack',dropWhile_of_tight ends,
        List.reverse_reverse]

end Text

namespace Numeral

/-- A text denotes a number: it is one or more digits after at most one plus sign. -/
def Denotes (cs : List Char) (n : Nat) : Prop :=
  ∃ sign digits, cs = sign ++ digits ∧ (sign = [] ∨ sign = ['+']) ∧ digits ≠ [] ∧ (∀ c ∈ digits, c.isDigit = true) ∧
    Nat.ofDigitChars 10 digits 0 = n

theorem isDigit_eq (c : Char) : isDigit c = c.isDigit := by
  rw [Bool.eq_iff_iff]
  simp [isDigit,Char.isDigit,Char.le_def]

theorem isDigit_iff (c : Char) : c.isDigit = true ↔ 48 ≤ c.toNat ∧ c.toNat ≤ 57 := by
  simp only [Char.isDigit,Bool.and_eq_true,decide_eq_true_eq,ge_iff_le,UInt32.le_iff_toNat_le]
  rfl

theorem value_eq (cs : List Char) : value cs = Nat.ofDigitChars 10 cs 0 := by
  have step : (fun n c => n * 10 + digitValue c) = fun n (c : Char) => 10 * n + (c.toNat - '0'.toNat) := by
    funext n c
    rw [digitValue,Nat.mul_comm]
  rw [value,step]
  rfl

theorem digits?_eq_some_iff {cs : List Char} {n : Nat} :
    digits? cs = some n ↔ cs ≠ [] ∧ (∀ c ∈ cs, c.isDigit = true) ∧ Nat.ofDigitChars 10 cs 0 = n := by
  have all : cs.all isDigit = true ↔ ∀ c ∈ cs, c.isDigit = true := by simp only [List.all_eq_true,isDigit_eq]
  rw [digits?,value_eq,← all]
  by_cases digits : cs ≠ [] ∧ cs.all isDigit = true
  · rw [if_pos digits,Option.some.injEq]
    exact ⟨fun value => ⟨digits.1,digits.2,value⟩,fun ⟨_,_,value⟩ => value⟩
  · rw [if_neg digits]
    exact ⟨nofun,fun ⟨some_,isDigit,_⟩ => absurd ⟨some_,isDigit⟩ digits⟩

/-- A number is read from the texts that denote it, if it is below the bound. -/
theorem below?_eq_some_iff {bound n : Nat} {cs : List Char} : below? bound cs = some n ↔ Denotes cs n ∧ n < bound := by
  unfold below?
  dsimp only
  rw [Option.filter_eq_some_iff,decide_eq_true_eq,digits?_eq_some_iff]
  refine and_congr_left fun _ => ?_
  split
  · rename_i rest
    constructor
    · rintro ⟨some_,digits,value⟩
      exact ⟨['+'],rest,rfl,.inr rfl,some_,digits,value⟩
    · rintro ⟨sign,ds,whole,rfl | rfl,some_,digits,value⟩
      · -- A digit is no plus sign.
        rw [List.nil_append] at whole
        have plus := digits '+' (whole ▸ List.mem_cons_self)
        cases plus
      · obtain ⟨-,rfl⟩ := List.cons.inj whole
        exact ⟨some_,digits,value⟩
  · rename_i noPlus
    constructor
    · rintro ⟨some_,digits,value⟩
      exact ⟨[],cs,rfl,.inl rfl,some_,digits,value⟩
    · rintro ⟨sign,ds,rfl,rfl | rfl,some_,digits,value⟩
      · exact ⟨some_,digits,value⟩
      · exact absurd rfl (noPlus ds)

theorem word32?_eq_some_iff {cs : List Char} {n : UInt32} : word32? cs = some n ↔ Denotes cs n.toNat := by
  rw [word32?,Option.map_eq_some_iff]
  constructor
  · rintro ⟨m,read,rfl⟩
    obtain ⟨denotes,below⟩ := below?_eq_some_iff.mp read
    rwa [UInt32.toNat_ofNat_of_lt' below]
  · intro denotes
    exact ⟨n.toNat,below?_eq_some_iff.mpr ⟨denotes,n.toNat_lt⟩,UInt32.ofNat_toNat⟩

theorem isBlank_of_isDigit {c : Char} (digit : c.isDigit = true) : Text.isBlank c = false := by
  obtain ⟨least,greatest⟩ := (isDigit_iff c).mp digit
  simp [Text.isBlank]
  omega

/-- There is no white space at the ends of a text that denotes a number. -/
theorem Denotes.tight {cs : List Char} {n : Nat} (denotes : Denotes cs n) : Text.Tight cs := by
  obtain ⟨sign,digits,rfl,signs,some_,isDigit,-⟩ := denotes
  have last : ∀ c ∈ (sign ++ digits).getLast?, Text.isBlank c = false := by
    intro c ends
    rw [List.getLast?_append_of_ne_nil _ some_] at ends
    exact isBlank_of_isDigit (isDigit c (List.mem_of_getLast? ends))
  refine ⟨?_,last⟩
  rcases signs with rfl | rfl
  · intro c begins
    exact isBlank_of_isDigit (isDigit c (List.mem_of_head? begins))
  · rintro c ⟨⟩
    rfl

theorem denotes_toDigits (n : Nat) : Denotes (Nat.toDigits 10 n) n := by
  refine ⟨[],Nat.toDigits 10 n,rfl,.inl rfl,Nat.toDigits_ne_nil,?_,Nat.ofDigitChars_ten_toDigits⟩
  intro c member
  exact Nat.isDigit_of_mem_toDigits (by decide) (by decide) member

/-! ### Digits that mean the same number -/

/-- Digits of the same length that mean the same number are the same. -/
theorem ofDigitChars_inj {ds ds' : List Char} {n n' : Nat} (digit : ∀ c ∈ ds, c.isDigit = true)
    (digit' : ∀ c ∈ ds', c.isDigit = true) (length : ds.length = ds'.length)
    (same : Nat.ofDigitChars 10 ds n = Nat.ofDigitChars 10 ds' n') : ds = ds' ∧ n = n' := by
  -- The digits after the first one determine what was read before them, and so the first one.
  induction ds generalizing ds' n n' with
  | nil =>
    obtain rfl := List.length_eq_zero_iff.mp length.symm
    exact ⟨rfl,same⟩
  | cons c ds ih =>
    obtain ⟨c',ds',rfl⟩ := List.exists_cons_of_length_eq_add_one length.symm
    rw [Nat.ofDigitChars_cons,Nat.ofDigitChars_cons] at same
    obtain ⟨first,others⟩ := List.forall_mem_cons.mp digit
    obtain ⟨first',others'⟩ := List.forall_mem_cons.mp digit'
    obtain ⟨rfl,high⟩ := ih others others' (Nat.succ.inj length) same
    have zero : '0'.toNat = 48 := rfl
    rw [isDigit_iff] at first first'
    obtain ⟨char,high⟩ : c.toNat = c'.toNat ∧ n = n' := by omega
    rw [Char.toNat_inj.mp char]
    exact ⟨rfl,high⟩

theorem ofDigitChars_zeros_append (k : Nat) (ds : List Char) :
    Nat.ofDigitChars 10 (List.replicate k '0' ++ ds) 0 = Nat.ofDigitChars 10 ds 0 := by
  rw [Nat.ofDigitChars_append,Nat.ofDigitChars_replicate_zero,Nat.mul_zero]

/-- Digits that mean the same number as others are these with zeros in front, unless there are fewer of them. -/
theorem eq_zeros_append {ds ds' : List Char} (digit : ∀ c ∈ ds, c.isDigit = true) (digit' : ∀ c ∈ ds', c.isDigit = true)
    (same : Nat.ofDigitChars 10 ds 0 = Nat.ofDigitChars 10 ds' 0) (shorter : ds'.length ≤ ds.length) :
    ds = List.replicate (ds.length - ds'.length) '0' ++ ds' := by
  have padded : ∀ c ∈ List.replicate (ds.length - ds'.length) '0' ++ ds', c.isDigit = true := by
    refine List.forall_mem_append.mpr ⟨fun c member => ?_,digit'⟩
    rw [List.eq_of_mem_replicate member]
    rfl
  refine (ofDigitChars_inj digit padded ?_ (same.trans (ofDigitChars_zeros_append _ ds').symm)).1
  rw [List.length_append,List.length_replicate,Nat.sub_add_cancel shorter]

/-- Digits mean the same number if and only if they are the same but for zeros in front. -/
theorem ofDigitChars_eq_iff {ds ds' : List Char} (digit : ∀ c ∈ ds, c.isDigit = true)
    (digit' : ∀ c ∈ ds', c.isDigit = true) : Nat.ofDigitChars 10 ds 0 = Nat.ofDigitChars 10 ds' 0 ↔
      ∃ k, ds = List.replicate k '0' ++ ds' ∨ ds' = List.replicate k '0' ++ ds := by
  constructor
  · intro same
    rcases Nat.le_total ds'.length ds.length with shorter | shorter
    · exact ⟨_,.inl (eq_zeros_append digit digit' same shorter)⟩
    · exact ⟨_,.inr (eq_zeros_append digit' digit same.symm shorter)⟩
  · rintro ⟨k,rfl | rfl⟩
    · exact ofDigitChars_zeros_append k ds'
    · exact (ofDigitChars_zeros_append k ds).symm

end Numeral
end VideoCapture
