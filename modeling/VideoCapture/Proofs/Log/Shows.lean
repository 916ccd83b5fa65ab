import Mathlib.Data.List.Induction
import VideoCapture.Log.Entry
import VideoCapture.Log.Filter
import VideoCapture.Proofs.Pattern.Meanings
/-!
# What the log shows

A filter is built directive by directive, a later one for the same target in the place of the earlier, and a record is
decided on by running through all directives. Main statement: whatever a text says (`exists_says`), the directives kept
are the last ones written for their targets; of those that a record's target begins with the one with the longest
target decides by its level; and of what passes, a record is shown if the pattern, as it is written, matches somewhere
in its text (`shows_iff`). What reaches a terminal of it has no character that the terminal obeys
(`Record.entry_shown`).
-/
namespace VideoCapture
namespace Log

/-- A directive is about records from a target if the target begins with its own, or if it has none. -/
def Directive.Covers (d : Directive) (target : String) : Prop := ∀ start ∈ d.target, ∃ rest, target = start ++ rest

/-- Of the directives about a target, this one decides: none has a longer target, and none after it one that is as
    long. -/
def Decides (directives : List Directive) (target : String) (d : Directive) : Prop :=
  d.Covers target ∧ ∃ front back, directives = front ++ d :: back ∧
    (∀ e ∈ front, e.Covers target → e.size ≤ d.size) ∧ ∀ e ∈ back, e.Covers target → e.size < d.size

/-- The directives of a text, without those of its parts that make no sense. -/
def written (text : String) : List Directive :=
  (((text.splitOn ",").map fun part => String.ofList (Text.trim part.toList)).filter (· ≠ "")).filterMap
    fun part => (Directive.read part).toOption

/-- What a text says: directives, and perhaps a pattern after a slash. With more slashes it says nothing. -/
inductive Says (text : String) : List Directive → Option String → Prop
  | parts {directives : String} {pattern : Option String} (split : text.splitOn "/" = directives :: pattern.toList) :
    Says text (written directives) pattern
  | tooMany (many : 2 < (text.splitOn "/").length) : Says text [] none

/-- A directive is the last one for its target. -/
def LastFor (directives : List Directive) (d : Directive) : Prop :=
  ∃ front back, directives = front ++ d :: back ∧ ∀ e ∈ back, e.target ≠ d.target

/-! ### Which directive decides -/

theorem Directive.covers_iff (d : Directive) (target : String) : d.covers target = true ↔ d.Covers target := by
  unfold covers Covers
  cases d.target with
  | none => simp
  | some start =>
    simp only [Option.mem_def,Option.some.injEq,forall_eq',String.startsWith_string_iff]
    constructor
    · rintro ⟨rest,whole⟩
      refine ⟨String.ofList rest,String.toList_inj.mp ?_⟩
      rw [String.toList_append,String.toList_ofList,whole]
    · rintro ⟨rest,rfl⟩
      exact ⟨rest.toList,String.toList_append.symm⟩

namespace Decides
variable {directives : List Directive} {target : String} {d d' e : Directive}

theorem size_le (decides : Decides directives target d) (member : e ∈ directives) (covers : e.Covers target) :
    e.size ≤ d.size := by
  obtain ⟨-,front,back,rfl,before,after⟩ := decides
  rcases List.mem_append.mp member with member | member
  · exact before e member covers
  · rcases List.mem_cons.mp member with rfl | member
    · exact Nat.le_refl _
    · exact Nat.le_of_lt (after e member covers)

theorem append_singleton (decides : Decides directives target d) (light : e.Covers target → e.size < d.size) :
    Decides (directives ++ [e]) target d := by
  obtain ⟨covers,front,back,rfl,before,after⟩ := decides
  refine ⟨covers,front,back ++ [e],by simp,before,?_⟩
  exact List.forall_mem_append.mpr ⟨after,List.forall_mem_singleton.mpr light⟩

theorem unique (decides : Decides directives target d) (decides' : Decides directives target d') : d = d' := by
  obtain ⟨covers,front,back,rfl,before,after⟩ := decides
  obtain ⟨covers',front',back',same,before',after'⟩ := decides'
  -- If one stood before the other, it would be lighter and not lighter.
  rcases List.append_eq_append_iff.mp same with ⟨rest,rfl,split⟩ | ⟨rest,rfl,split⟩
  · rcases List.cons_eq_append_iff.mp split with ⟨-,here⟩ | ⟨rest,rfl,later⟩
    · exact (List.cons.inj here).1.symm
    · have lighter := after d' (later ▸ by simp) covers'
      have heavier := before' d (by simp) covers
      omega
  · rcases List.cons_eq_append_iff.mp split with ⟨-,here⟩ | ⟨rest,rfl,later⟩
    · exact (List.cons.inj here).1
    · have lighter := after' d (later ▸ by simp) covers
      have heavier := before d' (by simp) covers'
      omega

end Decides

/-- What is known after running through some directives. -/
def Leads (directives : List Directive) (target : String) : Option Directive → Prop
  | some d => Decides directives target d
  | none => ∀ e ∈ directives, ¬ e.Covers target

namespace Leads
variable {directives : List Directive} {target : String} {best : Option Directive} {e : Directive}

theorem weightier (leads : Leads directives target best) (covers : e.Covers target) :
    Leads (directives ++ [e]) target (Filter.weightier best e) := by
  cases best with
  | none => exact ⟨covers,directives,[],rfl,fun other member covers' => absurd covers' (leads other member),by simp⟩
  | some d =>
    have decides : Decides directives target d := leads
    rw [Filter.weightier]
    split
    · rename_i heavy
      refine ⟨covers,directives,[],rfl,fun other member covers' => ?_,by simp⟩
      exact Nat.le_trans (decides.size_le member covers') heavy
    · rename_i light
      exact decides.append_singleton fun _ => Nat.lt_of_not_le light

theorem pass (leads : Leads directives target best) (aside : ¬ e.Covers target) :
    Leads (directives ++ [e]) target best := by
  cases best with
  | none => exact List.forall_mem_append.mpr ⟨leads,List.forall_mem_singleton.mpr aside⟩
  | some d => exact Decides.append_singleton leads fun covers => absurd covers aside

end Leads

namespace Filter

theorem leads_foldl (directives : List Directive) (target : String) :
    Leads directives target ((directives.filter (·.covers target)).foldl weightier none) := by
  induction directives using List.reverseRecOn with
  | nil => exact fun e member => nomatch member
  | append_singleton directives e ih =>
    rw [List.filter_append,List.foldl_append]
    by_cases covers : e.covers target = true
    · rw [List.filter_cons_of_pos (by exact covers)]
      exact ih.weightier ((e.covers_iff target).mp covers)
    · rw [List.filter_cons_of_neg (by exact covers)]
      exact ih.pass (mt (e.covers_iff target).mpr covers)

theorem directiveFor?_eq_some_iff (f : Filter) (target : String) (d : Directive) :
    f.directiveFor? target = some d ↔ Decides f.directives target d := by
  have leads := leads_foldl f.directives target
  rw [← directiveFor?] at leads
  constructor
  · intro found
    rwa [found] at leads
  · intro decides
    cases found : f.directiveFor? target with
    | none =>
      rw [found] at leads
      obtain ⟨covers,front,back,whole,-⟩ := decides
      exact absurd covers (leads d (whole ▸ by simp))
    | some d' =>
      rw [found] at leads
      exact congrArg some (Decides.unique leads decides)

theorem decided_iff (f : Filter) (target : String) (level : Level) :
    (match f.directiveFor? target with | some d => d.limit.admits level | none => false) = true ↔
      ∃ d, Decides f.directives target d ∧ d.limit.admits level = true := by
  simp only [← directiveFor?_eq_some_iff]
  cases f.directiveFor? target <;> simp

/-! ### Which directives are kept -/

theorem mem_put_iff {d e : Directive} {ds : List Directive} (distinct : (ds.map Directive.target).Nodup) :
    e ∈ put d ds ↔ e = d ∨ e ∈ ds ∧ e.target ≠ d.target := by
  induction ds with
  | nil => simp [put]
  | cons first ds ih =>
    obtain ⟨fresh,distinct⟩ := List.nodup_cons.mp distinct
    have others (member : e ∈ ds) : e.target ≠ first.target := fun same => fresh (same ▸ List.mem_map_of_mem member)
    unfold put
    split
    · rename_i same
      rw [same] at others
      simp only [List.mem_cons]
      constructor
      · rintro (rfl | member)
        · exact .inl rfl
        · exact .inr ⟨.inr member,others member⟩
      · rintro (rfl | ⟨rfl | member,differs⟩)
        · exact .inl rfl
        · exact absurd same differs
        · exact .inr member
    · rename_i differs
      rw [List.mem_cons,ih distinct,List.mem_cons]
      constructor
      · rintro (rfl | rfl | ⟨member,other⟩)
        · exact .inr ⟨.inl rfl,differs⟩
        · exact .inl rfl
        · exact .inr ⟨.inr member,other⟩
      · rintro (rfl | ⟨rfl | member,other⟩)
        · exact .inr (.inl rfl)
        · exact .inl rfl
        · exact .inr (.inr ⟨member,other⟩)

theorem nodup_put {d : Directive} {ds : List Directive} (distinct : (ds.map Directive.target).Nodup) :
    ((put d ds).map Directive.target).Nodup := by
  induction ds with
  | nil => simp [put]
  | cons first ds ih =>
    obtain ⟨fresh,distinct'⟩ := List.nodup_cons.mp distinct
    unfold put
    split
    · rename_i same
      rw [List.map_cons,← same]
      exact distinct
    · rename_i differs
      refine List.nodup_cons.mpr ⟨fun member => ?_,ih distinct'⟩
      obtain ⟨e,kept,same⟩ := List.mem_map.mp member
      rcases (mem_put_iff distinct').mp kept with rfl | ⟨kept,-⟩
      · exact differs same.symm
      · exact fresh (same ▸ List.mem_map_of_mem kept)

theorem lastFor_append_singleton {ds : List Directive} {d e : Directive} :
    LastFor (ds ++ [d]) e ↔ e = d ∨ LastFor ds e ∧ e.target ≠ d.target := by
  constructor
  · rintro ⟨front,back,whole,later⟩
    rcases List.eq_nil_or_concat back with rfl | ⟨back,last,rfl⟩
    · exact .inl (List.cons.inj (List.append_inj' whole rfl).2).1.symm
    · rw [List.concat_eq_append,← List.cons_append,← List.append_assoc] at whole
      obtain ⟨rfl,same⟩ := List.append_inj' whole rfl
      obtain rfl := (List.cons.inj same).1
      rw [List.concat_eq_append,List.forall_mem_append] at later
      exact .inr ⟨⟨front,back,rfl,later.1⟩,(List.forall_mem_singleton.mp later.2).symm⟩
  · rintro (rfl | ⟨⟨front,back,rfl,later⟩,differs⟩)
    · exact ⟨ds,[],rfl,by simp⟩
    · exact ⟨front,back ++ [d],by simp,List.forall_mem_append.mpr ⟨later,List.forall_mem_singleton.mpr differs.symm⟩⟩

/-- What is left of directives that are put one after the other. -/
def kept (ds : List Directive) : List Directive := ds.foldl (fun kept d => put d kept) []

/-- The directives that are kept are those that are the last for their targets. -/
theorem kept_distinct_last (ds : List Directive) :
    ((kept ds).map Directive.target).Nodup ∧ ∀ d, d ∈ kept ds ↔ LastFor ds d := by
  induction ds using List.reverseRecOn with
  | nil => simp [kept,LastFor]
  | append_singleton ds d ih =>
    obtain ⟨distinct,last⟩ := ih
    have more : kept (ds ++ [d]) = put d (kept ds) := by rw [kept,List.foldl_append]; rfl
    rw [more]
    refine ⟨nodup_put distinct,fun e => ?_⟩
    rw [mem_put_iff distinct,last,lastFor_append_singleton]

theorem foldl_readPart_fst (parts : List String) (known : List Directive × List String) :
    (parts.foldl readPart known).1 =
      (parts.filterMap fun part => (Directive.read part).toOption).foldl (fun kept d => put d kept) known.1 := by
  induction parts generalizing known with
  | nil => rfl
  | cons part parts ih =>
    rw [List.foldl_cons,ih,List.filterMap_cons,readPart]
    cases Directive.read part <;> rfl

theorem readDirectives_fst (text : String) : (readDirectives text).1 = kept (written text) :=
  foldl_readPart_fst _ ([],[])

theorem all_matchesIn_iff (pattern : Option String) (text : String) :
    (pattern.bind fun p => (Pattern.compile p).toOption).all (·.matchesIn text) = true ↔
      ∀ p ∈ pattern, ∀ e, Pattern.compile p = .ok e → ∃ t, Pattern.Term.read p = .ok t ∧
        ∃ i ≤ text.length, ∃ j, t.Spans text.toList .initial i j := by
  cases pattern with
  | none => simp
  | some p =>
    simp only [Option.bind_some,Option.mem_def,Option.some.injEq,forall_eq']
    cases compiled : Pattern.compile p with
    | error fault => simp [Except.toOption]
    | ok e =>
      obtain ⟨t,read,same,-⟩ := Pattern.compile_matches compiled
      simp [Except.toOption,read,same]

theorem splitOnAux_ne_nil (text sep : String) (b i j : String.Pos.Raw) (parts : List String) :
    text.splitOnAux sep b i j parts ≠ [] := by
  fun_induction String.splitOnAux text sep b i j parts with
  | case1 => simp
  | case2 | case3 | case4 => assumption

/-- Every text says something, if nothing at all. -/
theorem exists_says (text : String) : ∃ ds pattern, Says text ds pattern :=
  match split : text.splitOn "/" with
  | [] => (splitOnAux_ne_nil text "/" 0 0 0 [] split).elim
  | [_] => ⟨_,none,.parts split⟩
  | [_,pattern] => ⟨_,some pattern,.parts split⟩
  | _ :: _ :: _ :: _ => ⟨[],none,.tooMany (by simp [split])⟩

theorem read_eq {text : String} {ds : List Directive} {pattern : Option String} (said : Says text ds pattern) :
    (read text).1 = ⟨if (kept ds).isEmpty then [⟨none,some .error⟩] else kept ds,
      pattern.bind fun p => (Pattern.compile p).toOption⟩ := by
  unfold read
  cases said with
  | parts split =>
    rw [split]
    cases pattern with
    | none => rw [← readDirectives_fst]; rfl
    | some p =>
      rw [Option.bind_some,← readDirectives_fst]
      dsimp only [Option.toList]
      cases Pattern.compile p <;> rfl
  | tooMany many =>
    match split : text.splitOn "/" with
    | [] | [_] | [_,_] => simp [split] at many
    | _ :: _ :: _ :: _ => rfl

/-- What a filter holds that is written as a text: of each target the directive written last, and if there is none at
    all, one that lets only errors through. A record is shown if the directive that decides about its target lets its
    level through, and if the pattern, unless it cannot be matched, matches its text from some place to another. -/
theorem shows_iff {text : String} {ds : List Directive} {pattern : Option String} (said : Says text ds pattern) :
    let filter := (read text).1
    (filter.directives.map Directive.target).Nodup ∧
      (ds = [] → filter.directives = [⟨none,some .error⟩]) ∧
      (ds ≠ [] → ∀ d, d ∈ filter.directives ↔ LastFor ds d) ∧
      ∀ r : Record, filter.shows r = true ↔
        (∃ d, Decides filter.directives r.target d ∧ d.limit.admits r.level = true) ∧
          ∀ p ∈ pattern, ∀ e, Pattern.compile p = .ok e → ∃ t, Pattern.Term.read p = .ok t ∧
            ∃ i ≤ r.text.length, ∃ j, t.Spans r.text.toList .initial i j := by
  obtain ⟨distinct,last⟩ := kept_distinct_last ds
  dsimp only
  rw [read_eq said]
  refine ⟨?_,fun nothing => ?_,fun something => ?_,fun r => ?_⟩
  · dsimp only
    split
    · simp
    · exact distinct
  · rw [nothing]
    rfl
  · have some : kept ds ≠ [] := by
      obtain ⟨front,d,whole⟩ := (List.eq_nil_or_concat ds).resolve_left something
      exact List.ne_nil_of_mem ((last d).mpr ⟨front,[],by rw [whole,List.concat_eq_append],by simp⟩)
    rw [if_neg (by simpa using some)]
    exact last
  · rw [shows,Bool.and_eq_true]
    exact and_congr (decided_iff _ r.target r.level) (all_matchesIn_iff pattern r.text)

end Filter
end Log

/-- What reaches a terminal of a record has no control character of seven bits but white space, so nothing in its text
    can colour or hide what comes after it; and a line without such characters reaches it as it is. -/
theorem Record.entry_shown (r : Record) :
    let line := s!"[{r.level.label}] " ++ "\n    ".intercalate (r.text.splitOn "\n") ++ "\n"
    let plain (c : Char) := c ∈ ['\t','\n','\x0c','\r'] ∨ ' ' ≤ c ∧ c ≠ '\x7f'
    (∀ c ∈ r.entry.toList, plain c) ∧ ((∀ c ∈ line.toList, plain c) → r.entry = line) := by
  intro line plain
  have shows (c : Char) : Text.isShown c = true ↔ plain c := by
    simp [Text.isShown,Text.isBlankControl,plain,or_assoc]
  have entry : r.entry = String.ofList (Text.Display.clear.shown line.toList) := rfl
  rw [entry,String.toList_ofList]
  constructor
  · exact fun c member => (shows c).mp (Text.Display.isShown_of_mem_shown member)
  · intro all
    rw [Text.Display.shown_clear fun c member => (shows c).mpr (all c member),String.ofList_toList]

end VideoCapture
