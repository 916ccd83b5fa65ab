import VideoCapture.Settings.Store
/-!
# What a store says of a key

A store is known by what was done to it. `Change` lists what can be done to a store, and `Change.effect?` says what
that means to one key: it gets a value, its value is taken out, it gets a default, or nothing. Main statement: what
a store says of a key is the latest value that the key got and that was not taken out since, and else its latest
default; so it depends on nothing that was done to other keys. Values are laid over values when stores are merged, and
defaults stay where they are (`reads_latest`).
-/
namespace VideoCapture

namespace Setting

/-- What a reader of whole numbers gets of a value. -/
def number : Setting → Int64
  | int n => n
  | text _ => 0

/-- What a reader of texts gets of a value. -/
def words : Setting → String
  | int _ => ""
  | text t => t

end Setting

namespace Settings

theorem getInt_eq (s : Settings) (key : String) : s.getInt key = ((s.lookup key).map Setting.number).getD 0 := by
  rw [getInt]
  rcases s.lookup key with _ | ⟨n⟩ | ⟨t⟩ <;> rfl

theorem getText_eq (s : Settings) (key : String) : s.getText key = ((s.lookup key).map Setting.words).getD "" := by
  rw [getText]
  rcases s.lookup key with _ | ⟨n⟩ | ⟨t⟩ <;> rfl

/-! ### Changes -/

/-- Something that is done to a store. -/
inductive Change
  | set (key : String) (value : Setting)
  | setDefault (key : String) (value : Setting)
  | remove (key : String)
  | merge (other : Settings)

/-- What a change means to a key. -/
inductive Effect
  /-- The key gets a value of its own. -/
  | given (value : Setting)
  /-- The key's own value is taken out. -/
  | taken
  /-- The key gets a default. -/
  | defaulted (value : Setting)

/-- The store after a change. -/
def changed (s : Settings) : Change → Settings
  | .set key value => s.set key value
  | .setDefault key value => s.setDefault key value
  | .remove key => s.remove key
  | .merge other => s.merge other

/-- The store that changes make of the empty one. The latest change comes first. -/
def after : List Change → Settings
  | [] => empty
  | change :: earlier => (after earlier).changed change

/-- What a change means to a key, if it concerns the key. -/
def Change.effect? (key : String) : Change → Option Effect
  | set k value => if key = k then some (.given value) else none
  | setDefault k value => if key = k then some (.defaulted value) else none
  | remove k => if key = k then some .taken else none
  | merge other => (other.values.find? key).map .given

/-- The latest value given to a key, unless it was taken out since. The latest effect comes first. -/
def ownValue : List Effect → Option Setting
  | [] => none
  | .given value :: _ => some value
  | .taken :: _ => none
  | .defaulted _ :: earlier => ownValue earlier

/-- The latest default of a key. The latest effect comes first. -/
def defaultValue : List Effect → Option Setting
  | [] => none
  | .defaulted value :: _ => some value
  | .given _ :: earlier | .taken :: earlier => defaultValue earlier

/-! ### What a change leaves -/

theorem find?_values_changed (s : Settings) (change : Change) (key : String) :
    (s.changed change).values.find? key =
      match change.effect? key with
      | some (.given value) => some value
      | some .taken => none
      | some (.defaulted _) | none => s.values.find? key := by
  cases change with
  | set k value =>
    rw [changed,set,KeyMap.find?_insert,Change.effect?]
    split <;> rfl
  | setDefault k value => by_cases same : key = k <;> simp [changed,setDefault,Change.effect?,same]
  | remove k =>
    rw [changed,remove,KeyMap.find?_erase,Change.effect?]
    split <;> rfl
  | merge other =>
    rw [changed,merge,KeyMap.find?_merge,Change.effect?]
    cases other.values.find? key <;> rfl

theorem find?_defaults_changed (s : Settings) (change : Change) (key : String) :
    (s.changed change).defaults.find? key =
      match change.effect? key with
      | some (.defaulted value) => some value
      | some (.given _) | some .taken | none => s.defaults.find? key := by
  cases change with
  | setDefault k value =>
    rw [changed,setDefault,KeyMap.find?_insert,Change.effect?]
    split <;> rfl
  | set k value | remove k => by_cases same : key = k <;> simp [changed,set,remove,Change.effect?,same]
  | merge other =>
    rw [changed,merge,Change.effect?]
    cases other.values.find? key <;> rfl

/-- Each key's own value, after any number of changes. -/
theorem find?_values_after (changes : List Change) (key : String) :
    (after changes).values.find? key = ownValue (changes.filterMap (Change.effect? key)) := by
  induction changes with
  | nil => rfl
  | cons change earlier ih =>
    rw [after,find?_values_changed,ih,List.filterMap_cons]
    rcases change.effect? key with _ | value | _ | value <;> rfl

/-- Each key's default, after any number of changes. -/
theorem find?_defaults_after (changes : List Change) (key : String) :
    (after changes).defaults.find? key = defaultValue (changes.filterMap (Change.effect? key)) := by
  induction changes with
  | nil => rfl
  | cons change earlier ih =>
    rw [after,find?_defaults_changed,ih,List.filterMap_cons]
    rcases change.effect? key with _ | value | _ | value <;> rfl

/-! ### Defaults under values -/

/-- Where a key has a value of its own, no default counts. -/
theorem lookup_setDefault {s : Settings} {key : String} (own : s.hasValue key = true) (k : String) (value : Setting) :
    (s.setDefault k value).lookup key = s.lookup key := by
  obtain ⟨v,found⟩ := Option.isSome_iff_exists.mp own
  rw [lookup,lookup,setDefault,found,Option.some_or,Option.some_or]

/-- Without its own value a key has its default, and other keys are as they were. -/
theorem lookup_remove (s : Settings) (key k : String) :
    (s.remove key).lookup k = if k = key then s.defaults.find? k else s.lookup k := by
  rw [lookup,lookup,remove,KeyMap.find?_erase]
  split
  · exact Option.none_or
  · rfl

/-! ### Merging -/

theorem merge_merge (s other more : Settings) : (s.merge other).merge more = s.merge (other.merge more) := by
  rw [merge,merge,merge,merge,Settings.mk.injEq]
  refine ⟨KeyMap.ext_find? fun key => ?_,rfl⟩
  simp only [KeyMap.find?_merge,Option.or_assoc]

theorem merge_self (s : Settings) : s.merge s = s := by
  obtain ⟨values,defaults⟩ := s
  rw [merge,Settings.mk.injEq]
  refine ⟨KeyMap.ext_find? fun key => ?_,rfl⟩
  rw [KeyMap.find?_merge,Option.or_self]

/-- Whatever was done to a store, a reader of a key gets the latest value that was set or merged under it and not
    taken out since, or else its latest default; and of a value of the other kind, zero or the empty text, whatever
    the default is. A default changes nothing where there is a value, and to take a value out brings back the
    default. Merging lays the values of another store over the values, and leaves the defaults of both where they
    are; doing it again changes nothing, and merging two stores one after the other is merging the second merged
    into the first. -/
theorem reads_latest (changes : List Change) (key : String) :
    let s := after changes
    let effects := changes.filterMap (Change.effect? key)
    let counts := (ownValue effects).or (defaultValue effects)
    (s.getInt key = (counts.map Setting.number).getD 0 ∧ s.getText key = (counts.map Setting.words).getD "") ∧
    (s.hasValue key = true → ∀ k value, (s.setDefault k value).getInt key = s.getInt key ∧
      (s.setDefault k value).getText key = s.getText key) ∧
    ((s.remove key).lookup key = defaultValue effects ∧ ∀ k ≠ key, (s.remove key).lookup k = s.lookup k) ∧
    ∀ other more : Settings,
      (s.merge other).defaults = s.defaults ∧
      (∀ k, (s.merge other).values.find? k = (other.values.find? k).or (s.values.find? k)) ∧
      (s.merge other).merge other = s.merge other ∧
      (s.merge other).merge more = s.merge (other.merge more) := by
  intro s effects counts
  have found : s.lookup key = counts := by
    rw [lookup,find?_values_after,find?_defaults_after]
  refine ⟨⟨?_,?_⟩,?_,⟨?_,?_⟩,?_⟩
  · rw [getInt_eq,found]
  · rw [getText_eq,found]
  · intro own k value
    have same := lookup_setDefault own k value
    exact ⟨by rw [getInt_eq,getInt_eq,same],by rw [getText_eq,getText_eq,same]⟩
  · rw [lookup_remove,if_pos rfl,find?_defaults_after]
  · intro k other
    rw [lookup_remove,if_neg other]
  · intro other more
    refine ⟨rfl,fun k => KeyMap.find?_merge _ _ k,?_,merge_merge s other more⟩
    rw [merge_merge,merge_self]

/-- A text under the key hides the default of a number, until it is taken out. -/
example :
    let changes : List Change := [.setDefault "framerate" (.int 30),.merge (empty.setText "framerate" "fast")]
    (after changes).getInt "framerate" = 0 ∧ (after (.remove "framerate" :: changes)).getInt "framerate" = 30 := by
  decide

end Settings
end VideoCapture
