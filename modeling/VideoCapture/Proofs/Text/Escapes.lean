import VideoCapture.Text.Escape
/-!
# Octets are told apart by their escapes

The text of an octet in printable ASCII is one of three kinds (`Text.Escaped`), and no such text begins another one.
Main statement: two texts of octets that go on in any way are the same only if octets and rest are
(`Text.escapeOctet_append_inj`), so that different octets never have one text (`Text.escapeOctets_inj`).
-/
namespace VideoCapture.Text

/-- The octets that have a letter or a sign of their own after the backslash. -/
def signs : List (UInt8 × Char) := [(9,'t'),(13,'r'),(10,'n'),(39,'\''),(34,'"'),(92,'\\')]

/-- The text of an octet: its character, a backslash with a sign, or a backslash with its two digits of base 16. -/
inductive Escaped (b : UInt8) : List Char → Prop
  | plain {c : Char} (ascii : b.toNat < 0x80) (character : c.toNat = b.toNat) (noBackslash : c ≠ '\\') : Escaped b [c]
  | sign {c : Char} (member : (b,c) ∈ signs) : Escaped b ['\\',c]
  | numbered : Escaped b ('\\' :: 'x' :: hexOctet b)

theorem escaped_escapeOctet (b : UInt8) : Escaped b (escapeOctet b) := by
  unfold escapeOctet
  split
  · rename_i tab
    exact .sign (by simp [signs,tab])
  split
  · rename_i carriageReturn
    exact .sign (by simp [signs,carriageReturn])
  split
  · rename_i lineFeed
    exact .sign (by simp [signs,lineFeed])
  split
  · rename_i apostrophe
    exact .sign (by simp [signs,apostrophe])
  split
  · rename_i quote
    exact .sign (by simp [signs,quote])
  split
  · rename_i backslash
    exact .sign (by simp [signs,backslash])
  split
  · rename_i noBackslash printable
    have ascii : b.toNat < 0x80 := Nat.lt_trans (UInt8.lt_iff_toNat_lt.mp printable.2) (by decide)
    have character : (Char.ofNat b.toNat).toNat = b.toNat := by
      rw [Char.ofNat,dif_pos (.inl (Nat.lt_trans ascii (by decide)))]
      rfl
    refine .plain ascii character fun same => noBackslash (UInt8.toNat_inj.mp ?_)
    rw [← character,same]
    rfl
  · exact .numbered

theorem signs_inj : ∀ p ∈ signs, ∀ q ∈ signs, p.2 = q.2 → p.1 = q.1 := by decide

theorem not_mem_signs : ∀ p ∈ signs, p.2 ≠ 'x' := by decide

theorem hexDigit_inj {m n : Nat} (hm : m < 16) (hn : n < 16) (same : hexDigit m = hexDigit n) : m = n := by
  have all : ∀ m < 16, ∀ n < 16, hexDigit m = hexDigit n → m = n := by decide
  exact all m hm n hn same

theorem Escaped.ne_nil {b : UInt8} {front : List Char} (escaped : Escaped b front) : front ≠ [] := by
  cases escaped <;> exact List.cons_ne_nil _ _

theorem Escaped.append_inj {a b : UInt8} {front other rest others : List Char} (first : Escaped a front)
    (second : Escaped b other) (same : front ++ rest = other ++ others) : a = b ∧ rest = others := by
  have boundA := a.toNat_lt
  have boundB := b.toNat_lt
  cases first with
  | plain _ character noBackslash =>
    cases second with
    | plain _ character' _ =>
      obtain ⟨rfl,rfl⟩ := List.cons.inj same
      exact ⟨UInt8.toNat_inj.mp (character.symm.trans character'),rfl⟩
    | sign _ => exact absurd (List.cons.inj same).1 noBackslash
    | numbered => exact absurd (List.cons.inj same).1 noBackslash
  | sign member =>
    cases second with
    | plain _ _ noBackslash => exact absurd (List.cons.inj same).1.symm noBackslash
    | sign member' =>
      obtain ⟨rfl,rfl⟩ := List.cons.inj (List.cons.inj same).2
      exact ⟨signs_inj _ member _ member' rfl,rfl⟩
    | numbered => exact absurd (List.cons.inj (List.cons.inj same).2).1 (not_mem_signs _ member)
  | numbered =>
    cases second with
    | plain _ _ noBackslash => exact absurd (List.cons.inj same).1.symm noBackslash
    | sign member => exact absurd (List.cons.inj (List.cons.inj same).2).1.symm (not_mem_signs _ member)
    | numbered =>
      simp only [hexOctet,List.cons_append,List.nil_append,List.cons.injEq,true_and] at same
      obtain ⟨high,low,rest⟩ := same
      have high := hexDigit_inj (by omega) (by omega) high
      have low := hexDigit_inj (by omega) (by omega) low
      exact ⟨UInt8.toNat_inj.mp (by omega),rest⟩

theorem escapeOctet_append_inj {a b : UInt8} {rest others : List Char}
    (same : escapeOctet a ++ rest = escapeOctet b ++ others) : a = b ∧ rest = others :=
  (escaped_escapeOctet a).append_inj (escaped_escapeOctet b) same

/-- Octets in a row have a text of their own. -/
theorem escapeOctets_inj {as bs : List UInt8} (same : escapeOctets as = escapeOctets bs) : as = bs := by
  induction as generalizing bs with
  | nil =>
    cases bs with
    | nil => rfl
    | cons b bs => exact absurd same (List.append_ne_nil_of_left_ne_nil (escaped_escapeOctet b).ne_nil _).symm
  | cons a as ih =>
    cases bs with
    | nil => exact absurd same (List.append_ne_nil_of_left_ne_nil (escaped_escapeOctet a).ne_nil _)
    | cons b bs =>
      obtain ⟨rfl,rest⟩ := escapeOctet_append_inj same
      rw [ih rest]

/-! ### How long they are -/

theorem ascii_of_mem_signs : ∀ p ∈ signs, p.1.toNat < 0x80 := by decide

/-- An octet that is no ASCII has four characters. -/
theorem Escaped.length_eq {b : UInt8} {front : List Char} (escaped : Escaped b front) (high : 0x80 ≤ b.toNat) :
    front.length = 4 := by
  cases escaped with
  | plain ascii _ _ => exact absurd high (Nat.not_le.mpr ascii)
  | sign member => exact absurd high (Nat.not_le.mpr (ascii_of_mem_signs _ member))
  | numbered => rfl

theorem length_le_escapeOctets (bs : List UInt8) : bs.length ≤ (escapeOctets bs).length := by
  induction bs with
  | nil => exact Nat.zero_le _
  | cons b bs ih =>
    have some_ := List.length_pos_iff.mpr (escaped_escapeOctet b).ne_nil
    have cut : escapeOctets (b :: bs) = escapeOctet b ++ escapeOctets bs := List.flatMap_cons
    rw [cut,List.length_append,List.length_cons]
    omega

theorem length_add_three_le_escapeOctets {bs : List UInt8} {b : UInt8} (member : b ∈ bs) (high : 0x80 ≤ b.toNat) :
    bs.length + 3 ≤ (escapeOctets bs).length := by
  obtain ⟨before,after,rfl⟩ := List.append_of_mem member
  have four := (escaped_escapeOctet b).length_eq high
  have first := length_le_escapeOctets before
  have last := length_le_escapeOctets after
  have cut : escapeOctets (before ++ b :: after) = escapeOctets before ++ (escapeOctet b ++ escapeOctets after) := by
    rw [escapeOctets,List.flatMap_append,List.flatMap_cons]
    rfl
  rw [cut,List.length_append,List.length_append,List.length_append,List.length_cons]
  omega

end VideoCapture.Text
