import VideoCapture.Text.Utf8
/-!
# Texts and their octets

A character comes off the front of some octets if and only if they begin with its own (`Utf8.next_eq_some_iff`). Main
statements: octets are read as a text if and only if they are its octets (`Utf8.decode?_eq_some_iff`), so that a text
can be read if the octets are valid as UTF-8 and only then (`Utf8.isSome_decode?`).
-/
namespace VideoCapture.Utf8

/-! ### One character -/

theorem lead?_eq (b : UInt8) : lead? b =
    if b.toNat < 0x80 then some (0,b.toNat,0x80,0xBF)
    else if b.toNat < 0xC2 then none
    else if b.toNat < 0xE0 then some (1,b.toNat % 32,0x80,0xBF)
    else if b.toNat < 0xF0 then
      some (2,b.toNat % 16,if b.toNat = 0xE0 then 0xA0 else 0x80,if b.toNat = 0xED then 0x9F else 0xBF)
    else if b.toNat < 0xF5 then
      some (3,b.toNat % 8,if b.toNat = 0xF0 then 0x90 else 0x80,if b.toNat = 0xF4 then 0x8F else 0xBF)
    else none := by
  have all : ∀ n < 256, lead? (UInt8.ofNat n) =
      if n < 0x80 then some (0,n,0x80,0xBF)
      else if n < 0xC2 then none
      else if n < 0xE0 then some (1,n % 32,0x80,0xBF)
      else if n < 0xF0 then some (2,n % 16,if n = 0xE0 then 0xA0 else 0x80,if n = 0xED then 0x9F else 0xBF)
      else if n < 0xF5 then some (3,n % 8,if n = 0xF0 then 0x90 else 0x80,if n = 0xF4 then 0x8F else 0xBF)
      else none := by decide +kernel
  have here := all b.toNat b.toNat_lt
  rwa [UInt8.ofNat_toNat] at here

theorem tails_zero_iff {bits n : Nat} {low high : UInt8} {bs rest : List UInt8} :
    tails 0 bits low high bs = (some n,rest) ↔ bits = n ∧ bs = rest := by
  rw [tails,Prod.mk.injEq,Option.some.injEq]

theorem tails_succ_iff {k bits n : Nat} {low high : UInt8} {bs rest : List UInt8} :
    tails (k + 1) bits low high bs = (some n,rest) ↔ ∃ b others, bs = b :: others ∧ low.toNat ≤ b.toNat ∧
      b.toNat ≤ high.toNat ∧ tails k (bits * 64 + b.toNat % 64) 0x80 0xBF others = (some n,rest) := by
  cases bs with
  | nil => simp [tails]
  | cons b bs =>
    have inside : isTail low high b = true ↔ low.toNat ≤ b.toNat ∧ b.toNat ≤ high.toNat := by
      rw [isTail,Bool.and_eq_true,decide_eq_true_eq,decide_eq_true_eq,UInt8.le_iff_toNat_le,UInt8.le_iff_toNat_le]
    rw [tails]
    split
    · rename_i within
      obtain ⟨least,greatest⟩ := inside.mp within
      constructor
      · intro read
        exact ⟨b,bs,rfl,least,greatest,read⟩
      · rintro ⟨_,_,⟨⟩,-,-,read⟩
        exact read
    · rename_i outside
      constructor
      · intro read
        cases read
      · rintro ⟨_,_,⟨⟩,least,greatest,-⟩
        exact absurd (inside.mpr ⟨least,greatest⟩) outside

theorem next_eq_iff {b : UInt8} {bs rest : List UInt8} {c : Char} :
    next b bs = (some c,rest) ↔ ∃ k bits low high n, lead? b = some (k,bits,low,high) ∧
      tails k bits low high bs = (some n,rest) ∧ Char.ofNat n = c := by
  rw [next]
  cases led : lead? b with
  | none => simp
  | some lead =>
    obtain ⟨k,bits,low,high⟩ := lead
    dsimp only
    constructor
    · intro read
      obtain ⟨char,others⟩ := Prod.mk.inj read
      obtain ⟨n,point,char⟩ := Option.map_eq_some_iff.mp char
      exact ⟨k,bits,low,high,n,rfl,Prod.ext point others,char⟩
    · rintro ⟨_,_,_,_,n,⟨⟩,read,rfl⟩
      rw [read]
      rfl

/-- Octets that spell a code point. -/
inductive Spelling (n : Nat) : List UInt8 → Prop
  | one {a : UInt8} (greatest : n < 0x80) (first : a.toNat = n) : Spelling n [a]
  | two {a b : UInt8} (least : 0x80 ≤ n) (greatest : n < 0x800) (first : a.toNat = n / 64 + 192)
      (second : b.toNat = n % 64 + 128) : Spelling n [a,b]
  | three {a b c : UInt8} (least : 0x800 ≤ n) (greatest : n < 0x10000) (first : a.toNat = n / 4096 + 224)
      (second : b.toNat = n / 64 % 64 + 128) (third : c.toNat = n % 64 + 128) : Spelling n [a,b,c]
  | four {a b c d : UInt8} (least : 0x10000 ≤ n) (first : a.toNat = n / 262144 + 240)
      (second : b.toNat = n / 4096 % 64 + 128) (third : c.toNat = n / 64 % 64 + 128)
      (fourth : d.toNat = n % 64 + 128) : Spelling n [a,b,c,d]

theorem Spelling.ne_nil {n : Nat} {front : List UInt8} (spelling : Spelling n front) : front ≠ [] := by
  cases spelling <;> exact List.cons_ne_nil _ _

theorem spelling_encode (c : Char) : Spelling c.toNat (String.utf8EncodeChar c) := by
  have toNat {m : Nat} (fits : m < 256) : (UInt8.ofNat m).toNat = m := UInt8.toNat_ofNat_of_lt' fits
  have valid : c.toNat < 0x110000 := by
    rcases c.valid with low | high
    · exact Nat.lt_trans low (by decide)
    · exact high.2
  unfold String.utf8EncodeChar
  rw [Char.toNat_val]
  generalize c.toNat = n at *
  dsimp only
  split
  · exact .one (by omega) (toNat (by omega))
  split
  · exact .two (by omega) (by omega) (by rw [toNat (by omega)]; omega) (by rw [toNat (by omega)])
  split
  · exact .three (by omega) (by omega) (by rw [toNat (by omega)]; omega) (by rw [toNat (by omega)])
      (by rw [toNat (by omega)])
  · exact .four (by omega) (by rw [toNat (by omega)]; omega) (by rw [toNat (by omega)]) (by rw [toNat (by omega)])
      (by rw [toNat (by omega)])

/-- A code point has one spelling. -/
theorem Spelling.unique {n : Nat} {front other : List UInt8} (spelling : Spelling n front)
    (another : Spelling n other) : front = other := by
  cases spelling <;> cases another <;> grind [UInt8.toNat_inj]

theorem toNat_ofNat {n : Nat} (valid : n.isValidChar) : (Char.ofNat n).toNat = n := by
  rw [Char.ofNat,dif_pos valid]
  rfl

theorem ite_toNat_le {p : Prop} [Decidable p] {low low' b : UInt8} :
    (if p then low else low').toNat ≤ b.toNat ↔ (p → low.toNat ≤ b.toNat) ∧ (¬ p → low'.toNat ≤ b.toNat) := by
  split <;> simp [*]

theorem le_ite_toNat {p : Prop} [Decidable p] {high high' b : UInt8} :
    b.toNat ≤ (if p then high else high').toNat ↔ (p → b.toNat ≤ high.toNat) ∧ (¬ p → b.toNat ≤ high'.toNat) := by
  split <;> simp [*]

/-- A character that was found is spelled by the octets that were used. -/
theorem spelling_of_next {b : UInt8} {bs rest : List UInt8} {c : Char} (found : next b bs = (some c,rest)) :
    ∃ front, b :: bs = front ++ rest ∧ Spelling c.toNat front := by
  have bound := b.toNat_lt
  obtain ⟨k,bits,low,high,n,led,read,rfl⟩ := next_eq_iff.mp found
  rw [lead?_eq] at led
  split at led
  · cases led
    obtain ⟨rfl,rfl⟩ := tails_zero_iff.mp read
    rw [toNat_ofNat (.inl (by omega))]
    exact ⟨[b],rfl,.one (by omega) rfl⟩
  split at led
  · cases led
  split at led
  · cases led
    simp only [tails_succ_iff,tails_zero_iff,UInt8.reduceToNat] at read
    obtain ⟨d,_,rfl,_,_,rfl,rfl⟩ := read
    rw [toNat_ofNat (.inl (by omega))]
    exact ⟨[b,d],rfl,.two (by omega) (by omega) (by omega) (by omega)⟩
  split at led
  · cases led
    simp only [tails_succ_iff,tails_zero_iff,ite_toNat_le,le_ite_toNat,UInt8.reduceToNat] at read
    obtain ⟨d,_,rfl,⟨_,_⟩,⟨_,_⟩,e,_,rfl,_,_,rfl,rfl⟩ := read
    rw [toNat_ofNat (by show _ ∨ _; omega)]
    exact ⟨[b,d,e],rfl,.three (by omega) (by omega) (by omega) (by omega) (by omega)⟩
  split at led
  · cases led
    simp only [tails_succ_iff,tails_zero_iff,ite_toNat_le,le_ite_toNat,UInt8.reduceToNat] at read
    obtain ⟨d,_,rfl,⟨_,_⟩,⟨_,_⟩,e,_,rfl,_,_,f,_,rfl,_,_,rfl,rfl⟩ := read
    rw [toNat_ofNat (by show _ ∨ _; omega)]
    exact ⟨[b,d,e,f],rfl,.four (by omega) (by omega) (by omega) (by omega) (by omega)⟩
  · cases led

/-- A character is found where its spelling begins. -/
theorem Spelling.found {b : UInt8} {bs rest front : List UInt8} {c : Char} (spelling : Spelling c.toNat front)
    (cut : b :: bs = front ++ rest) : next b bs = (some c,rest) := by
  have valid : c.toNat < 0xD800 ∨ 0xDFFF < c.toNat ∧ c.toNat < 0x110000 := c.valid
  generalize whole : c.toNat = n at *
  have char : Char.ofNat n = c := whole ▸ c.ofNat_toNat
  rw [next_eq_iff]
  have led := lead?_eq b
  cases spelling with
  | one greatest first =>
    cases cut
    rw [if_pos (by omega)] at led
    exact ⟨_,_,_,_,n,led,tails_zero_iff.mpr ⟨first,rfl⟩,char⟩
  | two least greatest first second =>
    cases cut
    rw [if_neg (by omega),if_neg (by omega),if_pos (by omega)] at led
    refine ⟨_,_,_,_,n,led,?_,char⟩
    simp only [tails_succ_iff,tails_zero_iff,UInt8.reduceToNat]
    exact ⟨_,_,rfl,by omega,by omega,by omega,rfl⟩
  | three least greatest first second third =>
    cases cut
    rw [if_neg (by omega),if_neg (by omega),if_neg (by omega),if_pos (by omega)] at led
    refine ⟨_,_,_,_,n,led,?_,char⟩
    simp only [tails_succ_iff,tails_zero_iff,ite_toNat_le,le_ite_toNat,UInt8.reduceToNat]
    exact ⟨_,_,rfl,by omega,by omega,_,_,rfl,by omega,by omega,by omega,rfl⟩
  | four least first second third fourth =>
    cases cut
    rw [if_neg (by omega),if_neg (by omega),if_neg (by omega),if_neg (by omega),if_pos (by omega)] at led
    refine ⟨_,_,_,_,n,led,?_,char⟩
    simp only [tails_succ_iff,tails_zero_iff,ite_toNat_le,le_ite_toNat,UInt8.reduceToNat]
    exact ⟨_,_,rfl,by omega,by omega,_,_,rfl,by omega,by omega,_,_,rfl,by omega,by omega,by omega,rfl⟩

theorem next_eq_some_iff {b : UInt8} {bs rest : List UInt8} {c : Char} :
    next b bs = (some c,rest) ↔ b :: bs = String.utf8EncodeChar c ++ rest := by
  constructor
  · intro found
    obtain ⟨front,cut,spelling⟩ := spelling_of_next found
    rw [cut,spelling.unique (spelling_encode c)]
  · exact (spelling_encode c).found

/-! ### Whole texts -/

theorem pieces_encodeChar_append (c : Char) (bs : List UInt8) :
    pieces (String.utf8EncodeChar c ++ bs) = some c :: pieces bs := by
  obtain ⟨b,others,begins⟩ := List.exists_cons_of_ne_nil (spelling_encode c).ne_nil
  have found : next b (others ++ bs) = (some c,bs) := next_eq_some_iff.mpr (by rw [begins,List.cons_append])
  rw [begins,List.cons_append,pieces,found]

theorem encode_cons (c : Char) (cs : List Char) : encode (c :: cs) = String.utf8EncodeChar c ++ encode cs :=
  List.flatMap_cons

theorem pieces_encode (cs : List Char) : pieces (encode cs) = cs.map some := by
  induction cs with
  | nil => rw [encode,List.flatMap_nil,pieces,List.map_nil]
  | cons c cs ih =>
    rw [encode_cons,pieces_encodeChar_append,ih,List.map_cons]

theorem mapM_id_cons {α : Type} (piece : Option α) (others : List (Option α)) :
    (piece :: others).mapM id = piece.bind fun c => (others.mapM id).map (c :: ·) := by
  rw [List.mapM_cons]
  cases piece with
  | none => rfl
  | some c => cases others.mapM id <;> rfl

theorem decode?_encode (cs : List Char) : decode? (encode cs) = some cs := by
  rw [decode?,pieces_encode]
  induction cs with
  | nil => rfl
  | cons c cs ih =>
    rw [List.map_cons,mapM_id_cons,ih]
    rfl

theorem decodeLossy_encode (cs : List Char) : decodeLossy (encode cs) = cs := by
  rw [decodeLossy,pieces_encode,List.map_map]
  exact List.map_id cs

/-- Octets are read as a text if and only if they are the octets of the text. -/
theorem decode?_eq_some_iff {bs : List UInt8} {cs : List Char} : decode? bs = some cs ↔ bs = encode cs := by
  constructor
  · intro read
    rw [decode?] at read
    induction bs using pieces.induct generalizing cs with
    | case1 =>
      rw [pieces] at read
      cases read
      rfl
    | case2 b bs ih =>
      rw [pieces,mapM_id_cons,Option.bind_eq_some_iff] at read
      obtain ⟨c,first,read⟩ := read
      obtain ⟨others,rest,rfl⟩ := Option.map_eq_some_iff.mp read
      rw [encode_cons,← ih rest]
      exact next_eq_some_iff.mp (Prod.ext first rfl)
  · rintro rfl
    exact decode?_encode cs

theorem encode_inj {text other : String} (same : encode text.toList = encode other.toList) : text = other := by
  have read := decode?_encode text.toList
  rw [same,decode?_encode] at read
  exact String.toList_inj.mp (Option.some.inj read).symm

theorem length_le_encode (cs : List Char) : cs.length ≤ (encode cs).length := by
  induction cs with
  | nil => exact Nat.zero_le _
  | cons c cs ih =>
    have some_ := List.length_pos_iff.mpr (spelling_encode c).ne_nil
    rw [encode_cons,List.length_append,List.length_cons]
    omega

/-- Octets of ASCII can be read. -/
theorem exists_encode_of_ascii {bs : List UInt8} (ascii : ∀ b ∈ bs, b.toNat < 0x80) : ∃ cs, bs = encode cs := by
  induction bs with
  | nil => exact ⟨[],rfl⟩
  | cons b bs ih =>
    obtain ⟨small,others⟩ := List.forall_mem_cons.mp ascii
    obtain ⟨cs,rfl⟩ := ih others
    have point : (Char.ofNat b.toNat).toNat = b.toNat := toNat_ofNat (.inl (Nat.lt_trans small (by decide)))
    have spelling : Spelling (Char.ofNat b.toNat).toNat [b] := .one (by rwa [point]) point.symm
    refine ⟨Char.ofNat b.toNat :: cs,?_⟩
    rw [encode_cons,← spelling.unique (spelling_encode _),List.singleton_append]

/-- Octets can be read as a text if and only if they are valid. -/
theorem isSome_decode? (bs : List UInt8) : (decode? bs).isSome ↔ bs.toByteArray.IsValidUTF8 := by
  rw [Option.isSome_iff_exists]
  constructor
  · rintro ⟨cs,read⟩
    rw [decode?_eq_some_iff.mp read]
    exact ⟨cs,rfl⟩
  · rintro ⟨cs,same⟩
    exact ⟨cs,decode?_eq_some_iff.mpr (List.toByteArray_inj.mp same)⟩

/-- Octets are read as the text that they are valid for. -/
theorem fromUTF8?_eq (bs : List UInt8) : String.fromUTF8? bs.toByteArray = (decode? bs).map String.ofList := by
  cases read : decode? bs with
  | none =>
    have invalid : ¬ bs.toByteArray.IsValidUTF8 := by
      rw [← isSome_decode?,read]
      nofun
    rw [String.fromUTF8?,dif_neg invalid]
    rfl
  | some cs =>
    obtain rfl := decode?_eq_some_iff.mp read
    have valid : (encode cs).toByteArray.IsValidUTF8 := ⟨cs,rfl⟩
    rw [String.fromUTF8?,dif_pos valid,Option.map_some,Option.some.injEq,← String.toByteArray_inj,
      String.toByteArray_ofList]
    rfl

theorem toUTF8_eq (text : String) : text.toUTF8 = (encode text.toList).toByteArray := String.utf8Encode_toList.symm

theorem utf8ByteSize_eq (text : String) : text.utf8ByteSize = (encode text.toList).length := by
  rw [← String.size_toByteArray,← String.toUTF8_eq_toByteArray,toUTF8_eq,List.size_toByteArray]

end VideoCapture.Utf8
