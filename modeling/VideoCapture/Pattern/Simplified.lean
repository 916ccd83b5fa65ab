import VideoCapture.Pattern.Expression
/-!
# Simplified expressions

Expressions are put together so that nothing is nested that need not be. Characters that follow one
another become one text, alternatives of one character become a set, and what alternatives have in
common at their beginning is written once. The main statements say that a simplified sequence
matches what its parts match one after the other, that simplified alternatives match what one of
them matches, and that a simplified repetition matches what the repetition does.
-/
namespace VideoCapture.Pattern

def sharedStart {α : Type} [DecidableEq α] : List α → List α → List α
  | x :: xs, y :: ys => if x = y then x :: sharedStart xs ys else []
  | _, _ => []

theorem sharedStart_prefix_left {α : Type} [DecidableEq α] (xs ys : List α) :
    sharedStart xs ys <+: xs := by
  fun_induction sharedStart xs ys with
  | case1 y xs ys ih => simpa using ih
  | _ => exact List.nil_prefix

theorem sharedStart_prefix_right {α : Type} [DecidableEq α] (xs ys : List α) :
    sharedStart xs ys <+: ys := by
  fun_induction sharedStart xs ys with
  | case1 y xs ys ih => simpa using ih
  | _ => exact List.nil_prefix

theorem foldl_sharedStart_prefix_first {α : Type} [DecidableEq α] (xs : List α)
    (lists : List (List α)) : lists.foldl sharedStart xs <+: xs := by
  induction lists generalizing xs with
  | nil => exact List.prefix_rfl
  | cons ys lists ih => exact (ih _).trans (sharedStart_prefix_left xs ys)

/-- What some lists have in common with a first one is a beginning of each. -/
theorem foldl_sharedStart_prefix_mem {α : Type} [DecidableEq α] (xs : List α)
    {ys : List α} {lists : List (List α)} (h : ys ∈ lists) :
    lists.foldl sharedStart xs <+: ys := by
  induction lists generalizing xs with
  | nil => cases h
  | cons zs lists ih =>
    rcases List.mem_cons.1 h with rfl | h
    · exact (foldl_sharedStart_prefix_first _ lists).trans (sharedStart_prefix_right xs ys)
    · exact ih _ h

/-- Steps that keep some places once and for all do so the first time. -/
theorem testBit_afterSteps {step : Places → Places} {keeps : Nat → Bool}
    (h : ∀ s i, (step s).testBit i = (s.testBit i && keeps i)) (count : Nat) (s : Places)
    (i : Nat) :
    (afterSteps step count s).testBit i = (s.testBit i && (decide (count = 0) || keeps i)) := by
  induction count generalizing s with
  | zero => simp [afterSteps]
  | succ count ih =>
    unfold afterSteps
    dsimp only
    split
    · rename_i hs
      have := h s i
      rw [hs] at this
      simpa using this
    · rw [ih,h]
      cases s.testBit i <;> cases keeps i <;> simp

theorem withinSteps_eq_self {step : Places → Places} {keeps : Nat → Bool}
    (h : ∀ s i, (step s).testBit i = (s.testBit i && keeps i)) (count : Nat) (s : Places) :
    withinSteps step count s = s := by
  cases count with
  | zero => rfl
  | succ count =>
    have : s ||| step s = s := Nat.eq_of_testBit_eq fun i => by
      cases hs : s.testBit i <;> simp [Nat.testBit_or,h,hs]
    simp [withinSteps,this]

namespace Expression

def never : Expression := one .none true

/-- One of the members of a set. A single one is a text. -/
def ofSet (set : CharSet) (ofOctets : Bool) : Expression :=
  let members := set.inter .characters
  match members.single? with
  | some n => text [Char.ofNat n]
  | none => if members = .none then never else one members ofOctets

/-- An expression in front of another one. It is no sequence. -/
def before : Expression → Expression → Expression
  | empty, e => e
  | e, empty => e
  | text cs, text ds => text (cs ++ ds)
  | text cs, sequence (text ds) e => sequence (text (cs ++ ds)) e
  | a, b => sequence a b

def append : Expression → Expression → Expression
  | sequence a b, e => a.before (b.append e)
  | a, e => a.before e

def inOrder (es : List Expression) : Expression := es.foldr append empty

def parts : Expression → List Expression
  | sequence a b => a :: b.parts
  | e => [e]

def alternatives : Expression → List Expression
  | either a b => a :: b.alternatives
  | e => [e]

def character? : Expression → Option CharSet
  | text [c] => some (.range c.toNat c.toNat)
  | _ => none

def members? : Expression → Option CharSet
  | one set _ => some set
  | _ => none

/-- The characters that alternatives match if all are single characters or all are sets. -/
def oneOf? (es : List Expression) : Option CharSet :=
  (es.mapM character? <|> es.mapM members?).map fun sets => sets.foldr .union .none

def nested : List Expression → Expression
  | [] => never
  | [e] => e
  | e :: es => either e (nested es)

/-- Alternatives, as a set if they are one. -/
def merged (es : List Expression) : Expression :=
  match es.flatMap alternatives with
  | [e] => e
  | es => match oneOf? es with
    | some set => ofSet set false
    | none => nested es

/-- What alternatives that are sequences have in common at their beginning. -/
def sharedParts : List Expression → List Expression
  | [] | [_] => []
  | e :: es =>
    let lists := es.map parts
    if (e.parts :: lists).all (2 ≤ ·.length) then lists.foldl sharedStart e.parts else []

/-- Alternatives, with what all have in common in front of them. -/
def choice (es : List Expression) : Expression :=
  let es := es.flatMap alternatives
  let shared := sharedParts es
  if shared.isEmpty then merged es
  else
    let rests := es.map fun e => inOrder (e.parts.drop shared.length)
    inOrder (shared ++ [merged rests])

/-- Something a number of times. What is always empty is not repeated. -/
def times (body : Expression) (least : Nat) (most : Option Nat) (greedy : Bool) : Expression :=
  let (least,most) :=
    if body.onlyEmpty then (min least 1,some (min (most.getD 1) 1)) else (least,most)
  if least = 0 ∧ most = some 0 then empty
  else if least = 1 ∧ most = some 1 then body
  else repetition body least most greedy

@[simp] theorem ends_before (cs : List Char) (a b : Expression) (s : Places) :
    (a.before b).ends cs s = b.ends cs (a.ends cs s) := by
  fun_cases before a b <;> simp [ends,List.foldl_append]

@[simp] theorem ends_append (cs : List Char) (a b : Expression) (s : Places) :
    (a.append b).ends cs s = b.ends cs (a.ends cs s) := by
  induction a generalizing b s with
  | sequence a a' _ ih => simp [append,ends,ih]
  | _ => simp [append]

theorem ends_inOrder (cs : List Char) (es : List Expression) (s : Places) :
    (inOrder es).ends cs s = es.foldl (fun s e => e.ends cs s) s := by
  induction es generalizing s with
  | nil => simp [inOrder,ends]
  | cons e es ih => simpa [inOrder] using ih (e.ends cs s)

theorem ends_parts (cs : List Char) (e : Expression) (s : Places) :
    e.parts.foldl (fun s e => e.ends cs s) s = e.ends cs s := by
  induction e generalizing s with
  | sequence a b _ ih => simp [parts,ends,ih]
  | _ => rfl

/-- One of the members of a set matches each of its characters. -/
theorem ends_ofSet (cs : List Char) (set : CharSet) (b : Bool) (s : Places) :
    (ofSet set b).ends cs s = afterOne cs (fun c => set.contains c.toNat) s := by
  have same (c : Char) : (set.inter .characters).contains c.toNat = set.contains c.toNat := by
    simp [CharSet.contains_characters]
  simp only [← same,ofSet]
  split
  · rename_i n hn
    have hc := CharSet.contains_of_single? hn
    have member : CharSet.characters.contains n = true := by
      have : (set.inter .characters).contains n = true := by simp [hc]
      simp only [CharSet.contains_inter,Bool.and_eq_true] at this
      exact this.2
    simp only [ends,List.foldl_cons,List.foldl_nil,hc,CharSet.eq_ofNat_iff member]
  · split
    · rename_i h
      simp [h,never,ends]
    · rfl

/-- Where some expressions may end, one or the other. -/
def endsOfAny (cs : List Char) (es : List Expression) (s : Places) : Places :=
  es.foldr (fun e t => e.ends cs s ||| t) 0

theorem endsOfAny_append (cs : List Char) (es fs : List Expression) (s : Places) :
    endsOfAny cs (es ++ fs) s = endsOfAny cs es s ||| endsOfAny cs fs s := by
  induction es with
  | nil => simp [endsOfAny]
  | cons e es ih => simpa [endsOfAny,Nat.or_assoc] using congrArg _ ih

theorem endsOfAny_alternatives (cs : List Char) (e : Expression) (s : Places) :
    endsOfAny cs e.alternatives s = e.ends cs s := by
  induction e with
  | either a b _ ih =>
    have : endsOfAny cs (either a b).alternatives s =
      a.ends cs s ||| endsOfAny cs b.alternatives s := rfl
    rw [this,ih,ends]
  | _ => simp [alternatives,endsOfAny]

theorem endsOfAny_flatMap (cs : List Char) (es : List Expression) (s : Places) :
    endsOfAny cs (es.flatMap alternatives) s = endsOfAny cs es s := by
  induction es with
  | nil => rfl
  | cons e es ih =>
    rw [List.flatMap_cons,endsOfAny_append,endsOfAny_alternatives,ih]
    rfl

/-- Expressions that match what some others match from other places on. -/
theorem endsOfAny_map {cs : List Char} {es : List Expression} {f : Expression → Expression}
    {s t : Places} (h : ∀ e ∈ es, (f e).ends cs t = e.ends cs s) :
    endsOfAny cs (es.map f) t = endsOfAny cs es s := by
  induction es with
  | nil => rfl
  | cons e es ih =>
    have later := ih fun d hd => h d (List.mem_cons_of_mem e hd)
    simp only [endsOfAny,List.map_cons,List.foldr_cons] at later ⊢
    rw [h e List.mem_cons_self,later]

theorem ends_nested (cs : List Char) (es : List Expression) (s : Places) :
    (nested es).ends cs s = endsOfAny cs es s := by
  fun_induction nested es with
  | case1 => simp [never,ends,endsOfAny,afterOne_false]
  | case2 e => simp [endsOfAny]
  | case3 e es _ ih => simp [ends,endsOfAny,ih]

/-- Sets of which each is that of an expression match together what the expressions match. -/
theorem afterOne_union {cs : List Char} {s : Places} {set? : Expression → Option CharSet}
    (h : ∀ e set, set? e = some set →
      e.ends cs s = afterOne cs (fun c => set.contains c.toNat) s)
    {es : List Expression} {sets : List CharSet} (hs : es.mapM set? = some sets) :
    afterOne cs (fun c => (sets.foldr CharSet.union CharSet.none).contains c.toNat) s =
      endsOfAny cs es s := by
  induction es generalizing sets with
  | nil =>
    cases hs
    simp [endsOfAny,afterOne_false]
  | cons e es ih =>
    simp only [List.mapM_cons,bind,Option.bind_eq_some_iff,pure,Option.some.injEq] at hs
    obtain ⟨set,he,sets,hes,rfl⟩ := hs
    simp only [List.foldr_cons,CharSet.contains_union,afterOne_or,ih hes,← h e set he]
    rfl

theorem ends_of_character? {e : Expression} {set : CharSet} (h : character? e = some set)
    (cs : List Char) (s : Places) :
    e.ends cs s = afterOne cs (fun c => set.contains c.toNat) s := by
  unfold character? at h
  split at h <;> cases h
  rename_i c
  have same (d : Char) :
      decide (d = c) = (CharSet.range c.toNat c.toNat).contains d.toNat := by
    rw [CharSet.contains_range,← Bool.decide_and,decide_eq_decide,← Char.toNat_inj]
    omega
  simp only [ends,List.foldl_cons,List.foldl_nil,same]

theorem ends_of_members? {e : Expression} {set : CharSet} (h : members? e = some set)
    (cs : List Char) (s : Places) :
    e.ends cs s = afterOne cs (fun c => set.contains c.toNat) s := by
  unfold members? at h
  split at h <;> cases h
  rfl

/-- Alternatives that are a set match one of its characters. -/
theorem afterOne_oneOf? {cs : List Char} {s : Places} {es : List Expression} {set : CharSet}
    (h : oneOf? es = some set) :
    afterOne cs (fun c => set.contains c.toNat) s = endsOfAny cs es s := by
  simp only [oneOf?,Option.map_eq_some_iff] at h
  obtain ⟨sets,h,rfl⟩ := h
  cases hc : es.mapM character? with
  | some sets' =>
    obtain rfl : sets' = sets := by simpa [hc] using h
    exact afterOne_union (fun _ _ h => ends_of_character? h cs s) hc
  | none =>
    rw [hc] at h
    exact afterOne_union (fun _ _ h => ends_of_members? h cs s) h

theorem ends_merged (cs : List Char) (es : List Expression) (s : Places) :
    (merged es).ends cs s = endsOfAny cs es s := by
  rw [← endsOfAny_flatMap,merged]
  split
  · rename_i e h
    simp [h,endsOfAny]
  · split
    · rename_i h
      rw [ends_ofSet,afterOne_oneOf? h]
    · exact ends_nested ..

/-- What all alternatives have in common is at the beginning of each. -/
theorem sharedParts_prefix_parts {es : List Expression} {e : Expression} (he : e ∈ es) :
    sharedParts es <+: e.parts := by
  unfold sharedParts
  split
  · simp
  · exact List.nil_prefix
  · rename_i d ds _
    dsimp only
    split
    · rcases List.mem_cons.1 he with rfl | he
      · exact foldl_sharedStart_prefix_first ..
      · exact foldl_sharedStart_prefix_mem _ (List.mem_map_of_mem he)
    · exact List.nil_prefix

/-- Alternatives match one or the other. -/
theorem ends_choice (cs : List Char) (es : List Expression) (s : Places) :
    (choice es).ends cs s = endsOfAny cs es s := by
  have rest {e : Expression} (he : e ∈ es.flatMap alternatives) :
      (inOrder (e.parts.drop (sharedParts (es.flatMap alternatives)).length)).ends cs
        ((sharedParts (es.flatMap alternatives)).foldl (fun s e => e.ends cs s) s) =
      e.ends cs s := by
    obtain ⟨later,h⟩ := sharedParts_prefix_parts he
    rw [← ends_parts cs e,ends_inOrder,← h,List.drop_left,List.foldl_append]
  rw [← endsOfAny_flatMap,choice]
  split
  · exact ends_merged ..
  · rw [ends_inOrder,List.foldl_append,List.foldl_cons,List.foldl_nil,ends_merged]
    exact endsOfAny_map fun e he => rest he

/-- What matches nothing but the empty text keeps some places. -/
theorem exists_keeps_of_onlyEmpty (cs : List Char) {e : Expression} (h : e.onlyEmpty = true) :
    ∃ keeps : Nat → Bool, ∀ s i, (e.ends cs s).testBit i = (s.testBit i && keeps i) := by
  induction e with
  | empty => exact ⟨fun _ => true,by simp [ends]⟩
  | text ds =>
    obtain rfl := List.isEmpty_iff.1 h
    exact ⟨fun _ => true,by simp [ends]⟩
  | one => cases h
  | look l => exact ⟨_,fun s i => by rw [ends,Nat.testBit_and]⟩
  | sequence a b iha ihb =>
    obtain ⟨ha,hb⟩ := (Bool.and_eq_true ..).mp h
    obtain ⟨f,hf⟩ := iha ha
    obtain ⟨g,hg⟩ := ihb hb
    exact ⟨fun i => f i && g i,by simp [ends,hf,hg,Bool.and_assoc]⟩
  | either a b iha ihb =>
    obtain ⟨ha,hb⟩ := (Bool.and_eq_true ..).mp h
    obtain ⟨f,hf⟩ := iha ha
    obtain ⟨g,hg⟩ := ihb hb
    exact ⟨fun i => f i || g i,by simp [ends,hf,hg,Bool.and_or_distrib_left]⟩
  | repetition body least most greedy ih =>
    obtain ⟨f,hf⟩ := ih h
    refine ⟨fun i => decide (min least (cs.length + 1) = 0) || f i,fun s i => ?_⟩
    cases most <;> simp only [ends,withinSteps_eq_self hf,testBit_afterSteps hf]
  | kept _ body ih => exact ih h

/-- A repetition of what is always empty keeps the places that one of it keeps, if there is one. -/
theorem testBit_ends_repetition {cs : List Char} {body : Expression} {keeps : Nat → Bool}
    (h : ∀ s i, (body.ends cs s).testBit i = (s.testBit i && keeps i)) (least : Nat)
    (most : Option Nat) (greedy : Bool) (s : Places) (i : Nat) :
    ((repetition body least most greedy).ends cs s).testBit i =
      (s.testBit i && (decide (least = 0) || keeps i)) := by
  have few : min least (cs.length + 1) = 0 ↔ least = 0 := by omega
  cases most <;> simp only [ends,withinSteps_eq_self h,testBit_afterSteps h,few]

theorem ends_repetition_once (cs : List Char) (body : Expression) (greedy : Bool) (s : Places) :
    (repetition body 0 (some 0) greedy).ends cs s = s ∧
      (repetition body 1 (some 1) greedy).ends cs s = body.ends cs s := by
  have once : min 1 (cs.length + 1) = 1 := by omega
  refine ⟨by simp [ends,afterSteps,withinSteps],?_⟩
  simp only [ends,once,afterSteps,Nat.sub_self,Nat.zero_min,withinSteps]
  split
  · rename_i h; exact h.symm
  · rfl

/-- Something a number of times matches as its repetition does. -/
theorem ends_times (cs : List Char) (body : Expression) (least : Nat) (most : Option Nat)
    (greedy : Bool) (s : Places) :
    (times body least most greedy).ends cs s = (repetition body least most greedy).ends cs s := by
  have plain (least : Nat) (most : Option Nat) :
      (if least = 0 ∧ most = some 0 then empty
        else if least = 1 ∧ most = some 1 then body
        else repetition body least most greedy).ends cs s =
        (repetition body least most greedy).ends cs s := by
    split
    · rename_i h
      rw [h.1,h.2,(ends_repetition_once cs body greedy s).1,ends]
    · split
      · rename_i h
        rw [h.1,h.2,(ends_repetition_once cs body greedy s).2]
      · rfl
  unfold times
  by_cases only : body.onlyEmpty = true
  · obtain ⟨f,hf⟩ := exists_keeps_of_onlyEmpty cs only
    have few : min least 1 = 0 ↔ least = 0 := by omega
    simp only [only,↓reduceIte]
    rw [plain]
    exact Nat.eq_of_testBit_eq fun i => by
      rw [testBit_ends_repetition hf,testBit_ends_repetition hf]
      simp only [few]
  · simp only [only]
    exact plain ..

end Expression
end VideoCapture.Pattern
