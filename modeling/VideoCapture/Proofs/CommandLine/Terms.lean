import VideoCapture.CommandLine.Values
import VideoCapture.Proofs.Outcomes
import VideoCapture.Proofs.Settings.Numbers
import VideoCapture.Proofs.Text.Numerals
import VideoCapture.Settings.Config
/-!
# Sizes and intervals on the command line

A size or an interval is written as two terms with a separator between them. `Term` says how a term is written and
`Cut` where a text falls into two parts. Main statement: these texts are read, as the terms that they have, and no
others; the terms fit into the one number of a configuration, and a size or an interval is read back from its own
text (`terms_read`).
-/
namespace VideoCapture.CommandLine

/-! ### How sizes and intervals are written -/

/-- A number from 1 to 65535 as it is written: one or more digits after at most one plus sign, and white space around
    them. -/
structure Term (cs : List Char) (n : Nat) : Prop where
  written : ∃ numeral, Text.Padded numeral cs ∧ Numeral.Denotes numeral n
  positive : 1 ≤ n
  fits : n ≤ 65535

/-- A text in two parts, before and after the first separator. -/
def Cut (separator : Char) (cs left right : List Char) : Prop := cs = left ++ separator :: right ∧ separator ∉ left

/-- The parts of a size, before and after the first `x`, or the first `*` where there is no `x`. -/
def SizeParts (cs left right : List Char) : Prop := Cut 'x' cs left right ∨ 'x' ∉ cs ∧ Cut '*' cs left right

/-- A text of a size of so much by so much. -/
def SizeText (text : String) (width height : Nat) : Prop :=
  ∃ left right, SizeParts text.toList left right ∧ Term left width ∧ Term right height

/-- A text of an interval of a numerator and a denominator. -/
def IntervalText (text : String) (numerator denominator : Nat) : Prop :=
  ∃ left right, Cut '/' text.toList left right ∧ Term left numerator ∧ Term right denominator

/-! ### Reading -/

theorem term?_eq_some_iff {cs : List Char} {n : UInt32} :
    term? cs = some n ↔ ∃ numeral, Text.Padded numeral cs ∧ Numeral.Denotes numeral n.toNat := by
  rw [term?,Numeral.word32?_eq_some_iff]
  constructor
  · intro denotes
    exact ⟨Text.trim cs,Text.padded_trim cs,denotes⟩
  · rintro ⟨numeral,padded,denotes⟩
    rwa [(Text.trim_eq_iff denotes.tight).mpr padded]

theorem inRange_iff {a b : UInt32} :
    inRange a b = true ↔ (1 ≤ a.toNat ∧ a.toNat ≤ 65535) ∧ 1 ≤ b.toNat ∧ b.toNat ≤ 65535 := by
  have greatest : maxTerm.toNat = 65535 := rfl
  simp only [inRange,Bool.and_eq_true,decide_eq_true_eq,ne_eq,← UInt32.toNat_inj,UInt32.le_iff_toNat_le,
    UInt32.toNat_zero,greatest]
  omega

/-- Two terms are read from two parts, if there are two and each is a term. -/
theorem terms_eq_ok_iff {text : String} {parts : Option (List Char × List Char)}
    {form first second range : String → Failure} {a b : UInt32} :
    terms text parts form first second range = .ok (a,b) ↔
      ∃ left right, parts = some (left,right) ∧ Term left a.toNat ∧ Term right b.toNat := by
  constructor
  · intro read
    rcases parts with _ | ⟨left,right⟩
    · cases read
    · rw [terms] at read
      cases one : term? left with
      | none =>
        simp only [one] at read
        cases read
      | some a' =>
        cases other : term? right with
        | none =>
          simp only [one,other] at read
          cases read
        | some b' =>
          simp only [one,other] at read
          by_cases ranged : inRange a' b' = true
          · rw [if_pos ranged,Except.ok.injEq,Prod.mk.injEq] at read
            obtain ⟨rfl,rfl⟩ := read
            obtain ⟨⟨leastA,greatestA⟩,leastB,greatestB⟩ := inRange_iff.mp ranged
            exact ⟨left,right,rfl,⟨term?_eq_some_iff.mp one,leastA,greatestA⟩,
              ⟨term?_eq_some_iff.mp other,leastB,greatestB⟩⟩
          · rw [if_neg ranged] at read
            cases read
  · rintro ⟨left,right,rfl,termA,termB⟩
    have one := term?_eq_some_iff.mpr termA.written
    have other := term?_eq_some_iff.mpr termB.written
    have ranged := inRange_iff.mpr ⟨⟨termA.positive,termA.fits⟩,termB.positive,termB.fits⟩
    simp only [terms,one,other]
    rw [if_pos ranged]

theorem sizeParts_iff {cs left right : List Char} :
    (Text.splitFirst 'x' cs).or (Text.splitFirst '*' cs) = some (left,right) ↔ SizeParts cs left right := by
  rw [SizeParts,Cut,Cut,← Text.splitFirst_eq_some_iff,← Text.splitFirst_eq_some_iff,← Text.splitFirst_eq_none_iff]
  cases Text.splitFirst 'x' cs with
  | none => simp
  | some parts => simp

theorem resolution_eq_ok_iff {text : String} {r : Resolution} :
    resolution text = .ok r ↔ SizeText text r.width.toNat r.height.toNat := by
  unfold resolution
  rw [map_eq_ok_iff]
  constructor
  · rintro ⟨⟨width,height⟩,read,rfl⟩
    obtain ⟨left,right,parts,written⟩ := terms_eq_ok_iff.mp read
    exact ⟨left,right,sizeParts_iff.mp parts,written⟩
  · rintro ⟨left,right,parts,written⟩
    exact ⟨(r.width,r.height),terms_eq_ok_iff.mpr ⟨left,right,sizeParts_iff.mpr parts,written⟩,rfl⟩

theorem interval_eq_ok_iff {text : String} {f : Fraction} :
    interval text = .ok f ↔ IntervalText text f.numerator.toNat f.denominator.toNat := by
  unfold interval
  rw [map_eq_ok_iff]
  constructor
  · rintro ⟨⟨numerator,denominator⟩,read,rfl⟩
    obtain ⟨left,right,parts,written⟩ := terms_eq_ok_iff.mp read
    exact ⟨left,right,Text.splitFirst_eq_some_iff.mp parts,written⟩
  · rintro ⟨left,right,parts,written⟩
    exact ⟨(f.numerator,f.denominator),
      terms_eq_ok_iff.mpr ⟨left,right,Text.splitFirst_eq_some_iff.mpr parts,written⟩,rfl⟩

/-! ### Packing -/

/-- Terms that are written fit into one number. -/
theorem Term.unpacked {left right : List Char} {a b : UInt32} (one : Term left a.toNat) (other : Term right b.toNat) :
    unpack (pack a b) = (a,b) := by
  have fitsA : a < 65536 := UInt32.lt_iff_toNat_lt.mpr (Nat.lt_succ_of_le one.fits)
  have fitsB : b < 65536 := UInt32.lt_iff_toNat_lt.mpr (Nat.lt_succ_of_le other.fits)
  rw [unpack_pack,(mod_eq_self_iff a).mpr fitsA,(mod_eq_self_iff b).mpr fitsB]

/-- A size that was read is the one that a configuration with it asks for. -/
theorem resolution_kept {text : String} {r : Resolution} (read : resolution text = .ok r) {config : Configuration}
    (packed : config.packedResolution = pack r.width r.height) : config.resolution = r := by
  obtain ⟨left,right,-,width,height⟩ := resolution_eq_ok_iff.mp read
  rw [Configuration.resolution,packed,width.unpacked height]

/-- An interval that was read is the one that a configuration with it asks for. -/
theorem interval_kept {text : String} {f : Fraction} (read : interval text = .ok f) {config : Configuration}
    (packed : config.packedInterval = pack f.numerator f.denominator) : config.interval = f := by
  obtain ⟨left,right,-,numerator,denominator⟩ := interval_eq_ok_iff.mp read
  rw [Configuration.interval,packed,numerator.unpacked denominator]

/-! ### Texts of sizes and intervals -/

/-- A number in range is a term as it is printed. -/
theorem term_toDigits {n : Nat} (positive : 1 ≤ n) (fits : n ≤ 65535) : Term (Nat.toDigits 10 n) n where
  written := ⟨_,⟨[],[],by simp⟩,Numeral.denotes_toDigits n⟩
  positive := positive
  fits := fits

/-- Two printed numbers are parted at the separator between them. -/
theorem cut_toDigits {separator : Char} (noDigit : separator.isDigit = false) (a b : Nat) :
    Cut separator (Nat.toDigits 10 a ++ separator :: Nat.toDigits 10 b) (Nat.toDigits 10 a) (Nat.toDigits 10 b) := by
  refine ⟨rfl,fun member => ?_⟩
  have digit := Nat.isDigit_of_mem_toDigits (by decide) (by decide) member
  rw [noDigit] at digit
  cases digit

theorem toList_word (n : UInt32) : (toString n).toList = Nat.toDigits 10 n.toNat := Nat.toList_repr

theorem toList_size_text (r : Resolution) :
    r.text.toList = Nat.toDigits 10 r.width.toNat ++ 'x' :: Nat.toDigits 10 r.height.toNat := by
  have separator : (toString "x").toList = ['x'] := rfl
  simp [Resolution.text,toList_word,separator]

theorem toList_interval_text (f : Fraction) :
    f.text.toList = Nat.toDigits 10 f.numerator.toNat ++ '/' :: Nat.toDigits 10 f.denominator.toNat := by
  have separator : (toString "/").toList = ['/'] := rfl
  simp [Fraction.text,toList_word,separator]

/-- A text is read as a size if and only if it has two parts, before and after its first `x`, or its first `*` if it
    has no `x`, and each is a number from 1 to 65535, as digits with any zeros and at most one plus sign in front and
    with any white space around them; the size then has these two numbers. An interval has its parts before and after
    the first slash. What was read comes back unchanged from the one number that a configuration keeps it as. A size
    or an interval is read from its own text if both of its terms are from 1 to 65535, and only then. -/
theorem terms_read :
    (∀ text r, resolution text = .ok r ↔ SizeText text r.width.toNat r.height.toNat) ∧
    (∀ text f, interval text = .ok f ↔ IntervalText text f.numerator.toNat f.denominator.toNat) ∧
    (∀ text r (config : Configuration), resolution text = .ok r →
      unpack (pack r.width r.height) = (r.width,r.height) ∧ (config.withResolution r.width r.height).resolution = r) ∧
    (∀ text f (config : Configuration), interval text = .ok f →
      unpack (pack f.numerator f.denominator) = (f.numerator,f.denominator) ∧
        (config.withInterval f.numerator f.denominator).interval = f) ∧
    (∀ r : Resolution, resolution r.text = .ok r ↔
      (1 ≤ r.width.toNat ∧ r.width.toNat ≤ 65535) ∧ 1 ≤ r.height.toNat ∧ r.height.toNat ≤ 65535) ∧
    ∀ f : Fraction, interval f.text = .ok f ↔
      (1 ≤ f.numerator.toNat ∧ f.numerator.toNat ≤ 65535) ∧ 1 ≤ f.denominator.toNat ∧ f.denominator.toNat ≤ 65535 := by
  refine ⟨fun text r => resolution_eq_ok_iff,fun text f => interval_eq_ok_iff,?_,?_,?_,?_⟩
  · intro text r config read
    obtain ⟨left,right,-,width,height⟩ := resolution_eq_ok_iff.mp read
    exact ⟨width.unpacked height,resolution_kept read rfl⟩
  · intro text f config read
    obtain ⟨left,right,-,numerator,denominator⟩ := interval_eq_ok_iff.mp read
    exact ⟨numerator.unpacked denominator,interval_kept read rfl⟩
  · intro r
    rw [resolution_eq_ok_iff]
    constructor
    · rintro ⟨left,right,-,width,height⟩
      exact ⟨⟨width.positive,width.fits⟩,height.positive,height.fits⟩
    · rintro ⟨⟨leastW,greatestW⟩,leastH,greatestH⟩
      refine ⟨_,_,.inl ?_,term_toDigits leastW greatestW,term_toDigits leastH greatestH⟩
      rw [toList_size_text]
      exact cut_toDigits rfl _ _
  · intro f
    rw [interval_eq_ok_iff]
    constructor
    · rintro ⟨left,right,-,numerator,denominator⟩
      exact ⟨⟨numerator.positive,numerator.fits⟩,denominator.positive,denominator.fits⟩
    · rintro ⟨⟨leastN,greatestN⟩,leastD,greatestD⟩
      refine ⟨_,_,?_,term_toDigits leastN greatestN,term_toDigits leastD greatestD⟩
      rw [toList_interval_text]
      exact cut_toDigits rfl _ _

/-- An `x` parts a text even after a `*`. -/
example : resolution " +0640\u3000*480" = .ok ⟨640,480⟩ ∧ resolution "2*640x480" = .error (.resolutionWidth "2*640x480") :=
  ⟨rfl,rfl⟩

end VideoCapture.CommandLine
