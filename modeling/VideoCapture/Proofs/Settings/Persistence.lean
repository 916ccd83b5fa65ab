import VideoCapture.Proofs.Json.Words
import VideoCapture.Settings.Stored
/-!
# Settings are read back

A store is kept as a text, with the values that were set and without the defaults. Main statement: the text of a
store, whatever its keys and values are, is read back as a store with the same values and no defaults, which is
kept as the same text; so two stores are kept as one text if and only if their values are the same
(`stored_settings`).
-/
namespace VideoCapture

open Json

namespace Json

theorem separated_cons (sep t : List Char) (ts : List (List Char)) :
    separated sep (t :: ts) = t ++ ts.flatMap fun u => sep ++ u := by
  induction ts generalizing t with
  | nil => exact (List.append_nil t).symm
  | cons u ts ih => rw [separated,ih,List.flatMap_cons,List.append_assoc,List.append_assoc]

/-- A value that is neither a list nor an object is one word. -/
theorem anyValue_eq_scalar (depth : Nat) {c : Char} (noSpace : isSpace c = false) (noList : c ≠ '[')
    (noObject : c ≠ '{') (cs : List Char) : anyValue depth (c :: cs) = scalar (c :: cs) := by
  have word : skipSpace (c :: cs) = c :: cs := List.dropWhile_cons_of_neg (by simp [noSpace])
  have apart {mark : Char} {rest : List Char} (other : c ≠ mark) : c :: cs ≠ mark :: rest :=
    fun same => other (List.cons.inj same).1
  rw [anyValue,valueWithin.eq_def]
  simp only [word]
  split
  · exact absurd ‹_› (apart noList)
  · exact absurd ‹_› (apart noObject)
  · exact absurd ‹_› (apart noList)
  · exact absurd ‹_› (apart noObject)
  · rfl

/-- A whole number begins with a digit or a sign. -/
theorem front_of_int (n : Int) :
    ∃ c cs, (toString n).toList = c :: cs ∧ isSpace c = false ∧ c ≠ '[' ∧ c ≠ '{' := by
  rw [Int.toString_eq_repr,Int.repr_eq_if]
  by_cases positive : 0 ≤ n
  · rw [if_pos positive,Nat.toList_repr]
    cases digits : Nat.toDigits 10 n.toNat with
    | nil => exact absurd digits Nat.toDigits_ne_nil
    | cons c cs =>
      have digit : Numeral.isDigit c = true := isDigit_of_mem_toDigits (by rw [digits]; exact List.mem_cons_self ..)
      refine ⟨c,cs,rfl,?_,?_,?_⟩
      · cases space : isSpace c with
        | false => rfl
        | true =>
          simp only [isSpace,Bool.or_eq_true,decide_eq_true_eq] at space
          rcases space with ((rfl | rfl) | rfl) | rfl <;> cases digit
      · rintro rfl
        cases digit
      · rintro rfl
        cases digit
  · rw [if_neg positive,String.toList_append]
    exact ⟨'-',_,rfl,rfl,by decide,by decide⟩

end Json

namespace Setting

theorem ofJson?_toJson (v : Setting) : ofJson? v.toJson = some v := by
  cases v with
  | int n => rw [toJson,ofJson?,if_pos ⟨n.minValue_le_toInt,n.toInt_le⟩,Int64.ofInt_toInt]
  | text s => rfl

theorem anyValue_toJson (v : Setting) (depth : Nat) {rest : List Char} (ends : EndsNumber rest) :
    anyValue depth (v.toJson.compactChars ++ rest) = .ok (v.toJson,rest) := by
  cases v with
  | int n =>
    obtain ⟨c,cs,front,noSpace,noList,noObject⟩ := front_of_int n.toInt
    have read := scalar_int n.minValue_le_toInt n.toInt_le ends
    rw [front,List.cons_append] at read
    rw [toJson,Value.compactChars,front,List.cons_append,anyValue_eq_scalar depth noSpace noList noObject,read]
  | text s =>
    have read := stringBody_quoted s rest
    rw [toJson,Value.compactChars,quote,List.cons_append,anyValue_eq_scalar depth rfl (by decide) (by decide),
      List.append_assoc,List.singleton_append]
    change (stringBody (s.toList.flatMap escapeChar ++ '"' :: rest)).map _ = _
    rw [read]
    rfl

/-- Each setting is read back as it was, and of the same kind. -/
theorem reader_toJson (v : Setting) (depth : Nat) {rest : List Char} (ends : EndsNumber rest) :
    reader depth (v.toJson.compactChars ++ rest) = .ok (v,rest) := by
  simp only [reader,anyValue_toJson v depth ends,bind,Except.bind,ofJson?_toJson]
  rfl

end Setting

namespace Settings

/-- A member of a stored store. -/
def memberChars (e : String × Setting) : List Char := quote e.1 ++ ':' :: e.2.toJson.compactChars

theorem memberStep_memberChars (s : Settings) (key : String) (v : Setting) {rest : List Char} (ends : EndsNumber rest) :
    memberStep s key (':' :: (v.toJson.compactChars ++ rest)) = .ok (s.set key v,rest) := by
  have colon : expect ':' (':' :: (v.toJson.compactChars ++ rest)) = .ok (v.toJson.compactChars ++ rest) := rfl
  simp only [memberStep,colon,bind,Except.bind,v.reader_toJson _ ends]
  rfl

/-! ### All members -/

/-- The members behind the first one, and the end of the store. -/
def memberRest (es : List (String × Setting)) : List Char := (es.flatMap fun e => ',' :: memberChars e) ++ ['}']

theorem endsNumber_memberRest (es : List (String × Setting)) : EndsNumber (memberRest es) := by
  intro c first
  cases es with
  | nil =>
    obtain rfl := Option.some.inj first
    decide
  | cons e es =>
    obtain rfl := Option.some.inj first
    decide

theorem length_le_memberRest (es : List (String × Setting)) : es.length < (memberRest es).length := by
  induction es with
  | nil => exact Nat.one_pos
  | cons e es ih =>
    rw [memberRest,List.length_append] at ih ⊢
    rw [List.flatMap_cons,List.length_append,List.length_cons,List.length_cons]
    omega

/-- A member is taken in, the first one as it stands and others behind a comma. -/
theorem membersLoop_member (first : Bool) (fuel : Nat) (s : Settings) (e : String × Setting) {rest : List Char}
    (ends : EndsNumber rest) :
    membersLoop memberStep (fuel + 1) first s ((if first then [] else [',']) ++ (memberChars e ++ rest)) =
      membersLoop memberStep fuel false (s.set e.1 e.2) rest := by
  have member : memberChars e ++ rest =
      '"' :: (e.1.toList.flatMap escapeChar ++ '"' :: (':' :: (e.2.toJson.compactChars ++ rest))) := by
    simp only [memberChars,quote,List.cons_append,List.append_assoc,List.nil_append]
  have key (body : List Char) : anotherKey first ((if first then [] else [',']) ++ '"' :: body) = .ok (true,body) := by
    cases first <;> rfl
  rw [member,membersLoop]
  simp only [key,bind,Except.bind,↓reduceIte,stringBody_quoted,memberStep_memberChars s e.1 e.2 ends]

theorem membersLoop_memberRest (es : List (String × Setting)) (s : Settings) {fuel : Nat} (enough : es.length < fuel) :
    membersLoop memberStep fuel false s (memberRest es) = .ok (es.foldl (fun s e => s.set e.1 e.2) s,[]) := by
  induction es generalizing s fuel with
  | nil =>
    obtain ⟨fuel,rfl⟩ := Nat.exists_eq_add_one_of_ne_zero (show fuel ≠ 0 by omega)
    rfl
  | cons e es ih =>
    obtain ⟨fuel,rfl⟩ := Nat.exists_eq_add_one_of_ne_zero (show fuel ≠ 0 by omega)
    have front : memberRest (e :: es) = [','] ++ (memberChars e ++ memberRest es) := by
      simp only [memberRest,List.flatMap_cons,List.cons_append,List.nil_append,List.append_assoc]
    rw [front]
    exact (membersLoop_member false fuel s e (endsNumber_memberRest es)).trans
      (ih (s.set e.1 e.2) (Nat.lt_of_succ_lt_succ enough))

theorem compactMembers_toJson (es : List (String × Setting)) :
    Value.compactMembers (es.map fun e => (e.1,e.2.toJson)) = es.map memberChars := by
  induction es with
  | nil => rfl
  | cons e es ih => rw [List.map_cons,List.map_cons,Value.compactMembers,ih,memberChars]

/-- A store is an object of its members. -/
theorem toList_toText (s : Settings) :
    s.toText.toList = '{' :: (separated [','] (s.values.entries.map memberChars) ++ ['}']) := by
  rw [toText,Value.compact,String.toList_ofList,toJson,Value.compactChars,compactMembers_toJson]

/-- The members of a store are read back one after the other. -/
theorem reader_toText (s : Settings) :
    reader s.toText.toList = .ok (s.values.entries.foldl (fun s e => s.set e.1 e.2) empty,[]) := by
  rw [toList_toText]
  cases s.values.entries with
  | nil => rfl
  | cons e es =>
    have members : separated [','] ((e :: es).map memberChars) ++ ['}'] = memberChars e ++ memberRest es := by
      rw [List.map_cons,separated_cons,List.flatMap_map,List.append_assoc]
      rfl
    have enough : es.length < (memberChars e ++ memberRest es).length := by
      have short := length_le_memberRest es
      rw [List.length_append]
      omega
    rw [members]
    exact (membersLoop_member true _ empty e (endsNumber_memberRest es)).trans
      (membersLoop_memberRest es (empty.set e.1 e.2) enough)

/-! ### The store -/

theorem foldl_set (es : List (String × Setting)) (s : Settings) :
    es.foldl (fun s e => s.set e.1 e.2) s = ⟨es.foldl (fun m e => m.insert e.1 e.2) s.values,s.defaults⟩ := by
  induction es generalizing s with
  | nil => rfl
  | cons e es ih => exact ih (s.set e.1 e.2)

/-- A map is what comes of putting its entries in one by one. -/
theorem foldl_insert_entries (m : KeyMap Setting) :
    m.entries.foldl (fun m e => m.insert e.1 e.2) .empty = m := by
  refine KeyMap.ext_find? fun key => ?_
  rw [KeyMap.find?_foldl_insert m.entries m.sorted,KeyMap.find?_empty,Option.or_none]
  rfl

theorem ofText_toText (s : Settings) : ofText s.toText = .ok ⟨s.values,.empty⟩ := by
  have parsed : s.values.entries.foldl (fun s e => s.set e.1 e.2) empty = ⟨s.values,.empty⟩ := by
    rw [foldl_set]
    exact congrArg (Settings.mk · .empty) (foldl_insert_entries s.values)
  simp only [ofText,Json.read,reader_toText,bind,Except.bind,parsed]
  rfl

/-- Whatever its keys, values and defaults, a store that is kept as a text is read back from it with the same values,
    each of the same kind, and without defaults, and what was read is kept as the same text. Two stores are kept
    as one text if and only if their values are the same. -/
theorem stored_settings (s : Settings) :
    (∃ parsed, ofText s.toText = .ok parsed ∧ parsed.values = s.values ∧ parsed.defaults = .empty ∧
      parsed.toText = s.toText) ∧
    ∀ other : Settings, s.toText = other.toText ↔ s.values = other.values := by
  refine ⟨⟨⟨s.values,.empty⟩,s.ofText_toText,rfl,rfl,rfl⟩,fun other => ⟨fun same => ?_,fun same => ?_⟩⟩
  · have read := s.ofText_toText
    rw [same,other.ofText_toText] at read
    exact (congrArg Settings.values (Except.ok.inj read)).symm
  · rw [toText,toText,toJson,toJson,same]

end Settings
end VideoCapture
