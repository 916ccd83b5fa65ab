/-!
# Maps from text keys

A map is the list of its entries in ascending order of their keys, so equal maps have equal
entries and are listed alike. Main statements: what a look-up finds after each change, and that
look-ups determine the map.
-/
namespace VideoCapture

/-- A map from texts, its entries in ascending order of their keys. -/
structure KeyMap (α : Type) where
  entries : List (String × α)
  sorted : entries.Pairwise fun a b => a.1 < b.1
  deriving DecidableEq

namespace KeyMap

variable {α : Type}

def setEntry (key : String) (v : α) : List (String × α) → List (String × α)
  | [] => [(key,v)]
  | (k,w) :: es =>
    if key < k then (key,v) :: (k,w) :: es
    else if key = k then (key,v) :: es
    else (k,w) :: setEntry key v es

theorem mem_setEntry {key : String} {v : α} {e : String × α} {es : List (String × α)}
    (h : e ∈ setEntry key v es) : e = (key,v) ∨ e ∈ es := by
  induction es with
  | nil => simpa [setEntry] using h
  | cons d es ih => grind [setEntry]

theorem sorted_setEntry {key : String} {v : α} {es : List (String × α)}
    (h : es.Pairwise fun a b => a.1 < b.1) :
    (setEntry key v es).Pairwise fun a b => a.1 < b.1 := by
  induction es with
  | nil => simp [setEntry]
  | cons d es ih =>
    rw [List.pairwise_cons] at h
    unfold setEntry
    split
    · grind [List.pairwise_cons]
    · split
      · grind [List.pairwise_cons]
      · refine List.pairwise_cons.2 ⟨fun e he => ?_,ih h.2⟩
        rcases mem_setEntry he with rfl | he
        · grind
        · exact h.1 e he

def empty : KeyMap α := ⟨[],.nil⟩

instance : Inhabited (KeyMap α) := ⟨empty⟩

def find? (m : KeyMap α) (key : String) : Option α := m.entries.lookup key

def contains (m : KeyMap α) (key : String) : Bool := (m.find? key).isSome

def insert (m : KeyMap α) (key : String) (v : α) : KeyMap α :=
  ⟨setEntry key v m.entries,sorted_setEntry m.sorted⟩

def erase (m : KeyMap α) (key : String) : KeyMap α :=
  ⟨m.entries.filter (·.1 ≠ key),m.sorted.filter _⟩

/-- The map with every entry of `other` put over its own. -/
def merge (m other : KeyMap α) : KeyMap α :=
  other.entries.foldl (fun m e => m.insert e.1 e.2) m

/-! ## What look-ups find -/

@[simp] theorem find?_empty (key : String) : (empty : KeyMap α).find? key = none := rfl

theorem lookup_setEntry (key k : String) (v : α) (es : List (String × α)) :
    (setEntry key v es).lookup k = if k = key then some v else es.lookup k := by
  induction es with
  | nil => grind [setEntry]
  | cons d es ih => grind [setEntry]

theorem find?_insert (m : KeyMap α) (key k : String) (v : α) :
    (m.insert key v).find? k = if k = key then some v else m.find? k :=
  lookup_setEntry key k v m.entries

theorem lookup_filter_ne (key k : String) (es : List (String × α)) :
    (es.filter (·.1 ≠ key)).lookup k = if k = key then none else es.lookup k := by
  induction es with
  | nil => simp
  | cons d es ih => grind

theorem find?_erase (m : KeyMap α) (key k : String) :
    (m.erase key).find? k = if k = key then none else m.find? k :=
  lookup_filter_ne key k m.entries

theorem lookup_eq_some_iff_mem {es : List (String × α)} (h : es.Pairwise fun a b => a.1 < b.1)
    {k : String} {v : α} : es.lookup k = some v ↔ (k,v) ∈ es := by
  induction es with
  | nil => simp
  | cons d es ih =>
    rw [List.pairwise_cons] at h
    have := ih h.2
    have lt : ∀ v, (k,v) ∈ es → d.1 < k := fun v hv => h.1 _ hv
    obtain ⟨k',w⟩ := d
    grind

theorem mem_entries_iff {m : KeyMap α} {k : String} {v : α} :
    (k,v) ∈ m.entries ↔ m.find? k = some v :=
  (lookup_eq_some_iff_mem m.sorted).symm

theorem entries_eq_of_mem_iff {es fs : List (String × α)}
    (he : es.Pairwise fun a b => a.1 < b.1) (hf : fs.Pairwise fun a b => a.1 < b.1)
    (h : ∀ e, e ∈ es ↔ e ∈ fs) : es = fs := by
  induction es generalizing fs with
  | nil =>
    cases fs with
    | nil => rfl
    | cons f fs => simpa using h f
  | cons e es ih =>
    cases fs with
    | nil => simpa using h e
    | cons f fs =>
      rw [List.pairwise_cons] at he hf
      have hef : e = f := by
        have h1 := (h e).1 (List.mem_cons_self ..)
        have h2 := (h f).2 (List.mem_cons_self ..)
        grind
      subst hef
      congr 1
      refine ih he.2 hf.2 fun g => ?_
      have := h g
      grind

/-- Maps in which every look-up finds the same are equal. -/
theorem ext_find? {m n : KeyMap α} (h : ∀ k, m.find? k = n.find? k) : m = n := by
  have : m.entries = n.entries := entries_eq_of_mem_iff m.sorted n.sorted fun e => by
    rw [show e = (e.1,e.2) from rfl,mem_entries_iff,mem_entries_iff,h]
  cases m; cases n; simp_all

theorem find?_foldl_insert (es : List (String × α)) (h : es.Pairwise fun a b => a.1 < b.1)
    (m : KeyMap α) (k : String) :
    (es.foldl (fun m e => m.insert e.1 e.2) m).find? k = (es.lookup k).or (m.find? k) := by
  induction es generalizing m with
  | nil => simp
  | cons e es ih =>
    rw [List.pairwise_cons] at h
    rw [List.foldl_cons,ih h.2,find?_insert]
    have := fun v => lookup_eq_some_iff_mem (v := v) (k := k) h.2
    grind

theorem find?_merge (m other : KeyMap α) (k : String) :
    (m.merge other).find? k = (other.find? k).or (m.find? k) :=
  find?_foldl_insert other.entries other.sorted m k

end KeyMap
end VideoCapture
