import VideoCapture.Json.Reader
/-!
# Words that are read back

A string or a whole number that was written as a word of a JSON text is read from the front of the text as it was.
Main statements: `stringBody_quoted` for every string, with quotes, backslashes and control characters in it, and
`scalar_int` for every whole number of 64 bits.
-/
namespace VideoCapture.Json

/-! ### Strings -/

theorem hexValue?_hexDigit {n : Nat} (below : n < 16) : hexValue? (Text.hexDigit n) = some n := by
  have all : ∀ n < 16, hexValue? (Text.hexDigit n) = some n := by decide
  exact all n below

/-- A control character is read back from its number. -/
theorem unicodeEscape_control {c : Char} (control : c.toNat < 0x20) (rest : List Char) :
    unicodeEscape ('0' :: '0' :: (Text.hexOctet (UInt8.ofNat c.toNat) ++ rest)) = .ok (c,rest) := by
  have octet : (UInt8.ofNat c.toNat).toNat = c.toNat := by
    rw [UInt8.toNat_ofNat']
    omega
  have high := hexValue?_hexDigit (n := c.toNat / 16) (by omega)
  have low := hexValue?_hexDigit (n := c.toNat % 16) (by omega)
  have zero : hexValue? '0' = some 0 := rfl
  have whole : ((0 * 16 + 0) * 16 + c.toNat / 16) * 16 + c.toNat % 16 = c.toNat := by omega
  have quad : hexQuad ('0' :: '0' :: (Text.hexOctet (UInt8.ofNat c.toNat) ++ rest)) = .ok (c.toNat,rest) := by
    simp only [hexQuad,Text.hexOctet,octet,List.cons_append,List.nil_append,zero,high,low,whole]
  have noPair : ¬ (0xDC00 ≤ c.toNat ∧ c.toNat ≤ 0xDFFF) := by omega
  have single : c.toNat < 0xD800 ∨ 0xDBFF < c.toNat := by omega
  simp only [unicodeEscape,quad,bind,Except.bind,noPair,single,↓reduceIte,Char.ofNat_toNat]
  rfl

theorem stringChar_plain {c : Char} (noQuote : c ≠ '"') (noBackslash : c ≠ '\\') (plain : ¬ c.toNat < 0x20)
    (rest : List Char) : stringChar (c :: rest) = .ok (some c,rest) := by
  rw [stringChar.eq_def]
  split
  · contradiction
  · simp_all
  · simp_all
  · simp_all
  · simp_all
  · rename_i same
    obtain ⟨rfl,rfl⟩ := List.cons.inj same
    rw [if_neg plain]

/-- Each character is read back from what it is written as. -/
theorem stringChar_escapeChar (c : Char) (rest : List Char) :
    stringChar (escapeChar c ++ rest) = .ok (some c,rest) := by
  by_cases quote : c = '"'
  · subst quote; rfl
  by_cases backslash : c = '\\'
  · subst backslash; rfl
  by_cases backspace : c = '\x08'
  · subst backspace; rfl
  by_cases formFeed : c = '\x0C'
  · subst formFeed; rfl
  by_cases lineFeed : c = '\n'
  · subst lineFeed; rfl
  by_cases carriageReturn : c = '\r'
  · subst carriageReturn; rfl
  by_cases tab : c = '\t'
  · subst tab; rfl
  simp only [escapeChar,quote,backslash,backspace,formFeed,lineFeed,carriageReturn,tab,↓reduceIte]
  by_cases control : c.toNat < 0x20
  · rw [if_pos control]
    simp only [List.cons_append,List.nil_append,stringChar,unicodeEscape_control control]
    rfl
  · rw [if_neg control]
    exact stringChar_plain quote backslash control rest

theorem stringChars_escaped (cs rest : List Char) {fuel : Nat} (enough : cs.length < fuel) :
    stringChars fuel (cs.flatMap escapeChar ++ '"' :: rest) = .ok (cs,rest) := by
  induction cs generalizing fuel with
  | nil =>
    obtain ⟨fuel,rfl⟩ := Nat.exists_eq_add_one_of_ne_zero (show fuel ≠ 0 by omega)
    rfl
  | cons c cs ih =>
    obtain ⟨fuel,rfl⟩ := Nat.exists_eq_add_one_of_ne_zero (show fuel ≠ 0 by omega)
    have others := ih (Nat.lt_of_succ_lt_succ enough)
    rw [List.flatMap_cons,List.append_assoc,stringChars,stringChar_escapeChar]
    simp only [bind,Except.bind,others]
    rfl

theorem escapeChar_length_pos (c : Char) : 0 < (escapeChar c).length := by
  unfold escapeChar
  grind

theorem length_le_escaped (cs : List Char) : cs.length ≤ (cs.flatMap escapeChar).length := by
  induction cs with
  | nil => exact Nat.le_refl _
  | cons c cs ih =>
    have one := escapeChar_length_pos c
    rw [List.flatMap_cons,List.length_append,List.length_cons]
    omega

/-- A string is read back from between its quotes. -/
theorem stringBody_quoted (s : String) (rest : List Char) :
    stringBody (s.toList.flatMap escapeChar ++ '"' :: rest) = .ok (s,rest) := by
  have enough : s.toList.length < (s.toList.flatMap escapeChar ++ '"' :: rest).length + 1 := by
    have short := length_le_escaped s.toList
    rw [List.length_append]
    omega
  simp only [stringBody,stringChars_escaped s.toList rest enough,bind,Except.bind,String.ofList_toList]
  rfl

/-! ### Whole numbers -/

open Numeral (isDigit digitValue)

/-- What may follow a whole number: nothing that would go on with it. -/
def EndsNumber (rest : List Char) : Prop := ∀ c ∈ rest.head?, isDigit c = false ∧ c ≠ '.' ∧ c ≠ 'e' ∧ c ≠ 'E'

theorem isDigit_of_mem_toDigits {n : Nat} {c : Char} (member : c ∈ Nat.toDigits 10 n) : isDigit c = true := by
  have digit := Nat.isDigit_of_mem_toDigits (by decide) (by decide) member
  simpa [isDigit,Char.isDigit,Char.le_def] using digit

theorem takeWhile_digits (n : Nat) {rest : List Char} (ends : EndsNumber rest) :
    (Nat.toDigits 10 n ++ rest).takeWhile isDigit = Nat.toDigits 10 n ∧
      (Nat.toDigits 10 n ++ rest).dropWhile isDigit = rest := by
  have digits : ∀ c ∈ Nat.toDigits 10 n, isDigit c = true := fun c member => isDigit_of_mem_toDigits member
  have stops : rest.takeWhile isDigit = [] ∧ rest.dropWhile isDigit = rest := by
    cases rest with
    | nil => exact ⟨rfl,rfl⟩
    | cons c rest =>
      have other : isDigit c = false := (ends c rfl).1
      simp [other]
  rw [List.takeWhile_append_of_pos digits,List.dropWhile_append_of_pos digits,stops.1,stops.2]
  exact ⟨List.append_nil _,rfl⟩

theorem le_ofDigitChars (cs : List Char) (start : Nat) : start ≤ Nat.ofDigitChars 10 cs start := by
  induction cs generalizing start with
  | nil => exact Nat.le_refl _
  | cons c cs ih =>
    rw [Nat.ofDigitChars_cons]
    have later := ih (10 * start + (c.toNat - '0'.toNat))
    omega

/-- Where the number fits in 64 bits, all digits are taken. -/
theorem accumulate_eq (cs : List Char) (start taken : Nat) (fits : Nat.ofDigitChars 10 cs start < UInt64.size) :
    accumulate start taken cs = (Nat.ofDigitChars 10 cs start,taken + cs.length) := by
  induction cs generalizing start taken with
  | nil => rfl
  | cons c cs ih =>
    have next : start * 10 + digitValue c = 10 * start + (c.toNat - '0'.toNat) := by
      rw [digitValue,Nat.mul_comm]
    rw [Nat.ofDigitChars_cons] at fits ⊢
    have small := le_ofDigitChars cs (10 * start + (c.toNat - '0'.toNat))
    rw [accumulate,next,if_neg (by omega),ih _ _ fits,List.length_cons,Nat.add_right_comm,Nat.add_assoc]

theorem accumulate_toDigits {n : Nat} (fits : n < UInt64.size) :
    accumulate 0 0 (Nat.toDigits 10 n) = (n,(Nat.toDigits 10 n).length) := by
  have value : Nat.ofDigitChars 10 (Nat.toDigits 10 n) 0 = n := Nat.ofDigitChars_ten_toDigits
  rw [accumulate_eq _ _ _ (by rwa [value]),value,Nat.zero_add]

/-- Only zero is written with a zero in front, and with no other digit. -/
theorem toDigits_of_zero_front {n : Nat} {cs : List Char} (front : Nat.toDigits 10 n = '0' :: cs) : cs = [] := by
  induction n using Nat.strongRecOn generalizing cs with
  | _ n ih =>
    rw [Nat.toDigits_eq_if (by decide)] at front
    split at front
    case isTrue small => exact (List.cons.inj front).2.symm
    case isFalse large =>
      exfalso
      cases tens : Nat.toDigits 10 (n / 10) with
      | nil => exact Nat.toDigits_ne_nil tens
      | cons c ds =>
        rw [tens,List.cons_append] at front
        obtain ⟨rfl,-⟩ := List.cons.inj front
        obtain rfl := ih (n / 10) (by omega) tens
        have value : Nat.ofDigitChars 10 (Nat.toDigits 10 (n / 10)) 0 = n / 10 := Nat.ofDigitChars_ten_toDigits
        rw [tens] at value
        have zero : n / 10 = 0 := value.symm
        omega

/-- A whole number is read back from its digits. With a sign it is read as a whole number if it is not zero and not
    less than the least one of 64 bits. -/
theorem number_toDigits (negative : Bool) {n : Nat} (fits : n < UInt64.size) {rest : List Char} (ends : EndsNumber rest)
    (range : negative = true → n ≠ 0 ∧ n ≤ Nat.pow 2 63) :
    number negative (Nat.toDigits 10 n ++ rest) = .ok (.int (if negative then -(n : Int) else n),rest) := by
  obtain ⟨taken,dropped⟩ := takeWhile_digits n ends
  cases digits : Nat.toDigits 10 n with
  | nil => exact absurd digits Nat.toDigits_ne_nil
  | cons c cs =>
    have digit : isDigit c = true := isDigit_of_mem_toDigits (by rw [digits]; exact List.mem_cons_self ..)
    have noZero : ¬ (c = '0' ∧ (cs ++ rest).head?.any isDigit = true) := by
      rintro ⟨rfl,follows⟩
      obtain rfl := toDigits_of_zero_front digits
      rw [List.nil_append,Option.any_eq_true] at follows
      obtain ⟨d,first,isDigit⟩ := follows
      rw [(ends d first).1] at isDigit
      cases isDigit
    have whole : accumulate 0 0 (c :: cs) = (n,(c :: cs).length) := by
      rw [← digits]
      exact accumulate_toDigits fits
    rw [digits,List.cons_append] at taken dropped
    have none : ((c :: cs).length : Int) - (c :: cs).length = 0 := Int.sub_self _
    simp only [number,List.cons_append,digit,noZero,taken,dropped,whole,none]
    rw [if_neg (by decide),if_neg id]
    split
    · exact absurd rfl (ends '.' rfl).2.1
    · exact absurd rfl (ends 'e' rfl).2.2.1
    · exact absurd rfl (ends 'E' rfl).2.2.2
    · cases negative with
      | false => rfl
      | true =>
        obtain ⟨notZero,least⟩ := range rfl
        have inside : ¬ (n = 0 ∨ Nat.pow 2 63 < n) := by omega
        rw [if_neg (by decide),if_neg (by decide),if_neg inside]
        rfl

/-- Where the word for a whole number begins, no other word does. -/
theorem scalar_digits {n : Nat} (fits : n < UInt64.size) {rest : List Char} (ends : EndsNumber rest) :
    scalar (Nat.toDigits 10 n ++ rest) = .ok (.int n,rest) := by
  have read := number_toDigits false fits ends nofun
  cases digits : Nat.toDigits 10 n with
  | nil => exact absurd digits Nat.toDigits_ne_nil
  | cons c cs =>
    have digit : isDigit c = true := isDigit_of_mem_toDigits (by rw [digits]; exact List.mem_cons_self ..)
    rw [digits,List.cons_append] at read
    rw [List.cons_append,scalar.eq_def]
    split
    case h_1 => contradiction
    case h_7 =>
      rename_i same
      obtain ⟨rfl,rfl⟩ := List.cons.inj same
      rw [if_pos digit,read]
      rfl
    all_goals
      rename_i same
      obtain ⟨rfl,-⟩ := List.cons.inj same
      cases digit

/-- A whole number of 64 bits, with or without a sign, is read back. -/
theorem scalar_int {n : Int} (least : Int64.minValue.toInt ≤ n) (greatest : n ≤ Int64.maxValue.toInt) {rest : List Char}
    (ends : EndsNumber rest) : scalar ((toString n).toList ++ rest) = .ok (.int n,rest) := by
  have least : -9223372036854775808 ≤ n := least
  have greatest : n ≤ 9223372036854775807 := greatest
  rw [Int.toString_eq_repr,Int.repr_eq_if]
  by_cases positive : 0 ≤ n
  · have fits : n.toNat < UInt64.size := by
      rw [UInt64.size]
      omega
    rw [if_pos positive,Nat.toList_repr,scalar_digits fits ends,Int.toNat_of_nonneg positive]
  · have fits : (-n).toNat < UInt64.size := by
      rw [UInt64.size]
      omega
    have range : (-n).toNat ≠ 0 ∧ (-n).toNat ≤ Nat.pow 2 63 := by
      change (-n).toNat ≠ 0 ∧ (-n).toNat ≤ 9223372036854775808
      omega
    have read := number_toDigits true fits ends fun _ => range
    have value : -((-n).toNat : Int) = n := by omega
    rw [if_pos rfl,value] at read
    rw [if_neg positive,String.toList_append,Nat.toList_repr]
    change (number true (Nat.toDigits 10 (-n).toNat ++ rest)).map scalar.signed = _
    rw [read]
    rfl

end VideoCapture.Json
