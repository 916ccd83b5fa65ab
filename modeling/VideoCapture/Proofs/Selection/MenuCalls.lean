import VideoCapture.Proofs.Selection.Entries
import VideoCapture.Selection.Menus
/-!
# Calls that rebuild the lists of a dialogue

Three of the four lists are rebuilt, each by its own call (`Menus.follow`), from what the device of the settings offers
(`Menus.choicesOn`). What a list becomes depends on the settings and on the devices at the time of the call
(`Menus.rebuilt`) and on nothing else. Main statement: a call opens the device at most once, closes it again and changes
its own list alone; so after any calls a list is what its own latest call made of it; and to build all lists is to make
the three calls on a new dialogue, unless the first one fails (`Menus.lists_follow`).
-/
namespace VideoCapture.Menus
variable {ω : Type} (world : World ω)

open Act

/-! ### Lists and their calls -/

/-- The lists that are rebuilt. -/
inductive Dropdown
  | formats
  | resolutions
  | framerates
  deriving DecidableEq

/-- What is chosen from a list. -/
def Dropdown.Value : Dropdown → Type
  | formats => FourCC
  | resolutions | framerates => UInt32

/-- One of the lists. -/
def list (p : Menus) : (k : Dropdown) → ChoiceList k.Value
  | .formats => p.formats
  | .resolutions => p.resolutions
  | .framerates => p.framerates

/-- All lists, with other choices in one of them. -/
def withChoices (p : Menus) : (k : Dropdown) → List (Choice k.Value) → Menus
  | .formats, choices => { p with formats.choices := choices }
  | .resolutions, choices => { p with resolutions.choices := choices }
  | .framerates, choices => { p with framerates.choices := choices }

/-- The call that rebuilds a list. -/
def follow : Dropdown → Menus → Settings → Act ω (Bool × Menus)
  | .formats => followDevice world
  | .resolutions => followFormat world
  | .framerates => followResolution world

/-- What an open device offers for a list, with the pixel format and the unpacked size of the settings. -/
def choicesOn (settings : Settings) : (k : Dropdown) → Handle → Act ω (List (Choice k.Value))
  | .formats, device => world.formats device
  | .resolutions, device => world.resolutions device ⟨settings.getWord Settings.formatKey⟩
  | .framerates, device =>
    let size := unpack (settings.getWord Settings.resolutionKey)
    world.framerates device ⟨settings.getWord Settings.formatKey⟩ size.1 size.2

/-- What a list becomes by its call: what the device of the settings offers, or nothing if it does not open. -/
def rebuilt (settings : Settings) (k : Dropdown) (s : ω) : List (Choice k.Value) :=
  let path := settings.getText Settings.deviceKey
  match world.openDevice path .probe s with
  | (.error _,_) => []
  | (.ok number,s') => ((choicesOn world settings k ⟨path,.probe,number⟩).run s').value

/-- A call in a series of calls. -/
structure Call (ω : Type) where
  /-- The list that it rebuilds. -/
  dropdown : Dropdown
  /-- The settings that it reads. -/
  settings : Settings
  /-- What became of the devices since the call before. -/
  meanwhile : ω → ω

/-- The call, on the devices as they have become. -/
def Call.act (call : Call ω) (p : Menus) : Act ω (Bool × Menus) := do
  Course.change fun s => ((),call.meanwhile s)
  follow world call.dropdown p call.settings

/-- Calls one after the other. -/
def followAll : List (Call ω) → Menus → Act ω Menus
  | [], p => return p
  | call :: calls, p => do
    let result ← call.act world p
    followAll calls result.2

theorem eq_of_list {p q : Menus} (devices : p.devices = q.devices) (lists : ∀ k, p.list k = q.list k) : p = q := by
  cases p
  cases q
  rw [mk.injEq]
  exact ⟨devices,lists .formats,lists .resolutions,lists .framerates⟩

section
variable (p : Menus) (k : Dropdown) (choices : List (Choice k.Value))

theorem list_withChoices_self : (p.withChoices k choices).list k = ⟨(p.list k).key,choices⟩ := by
  cases k <;> rfl

theorem list_withChoices_of_ne {k' : Dropdown} (other : k' ≠ k) : (p.withChoices k choices).list k' = p.list k' := by
  cases k <;> cases k' <;> first | rfl | exact absurd rfl other

theorem devices_withChoices : (p.withChoices k choices).devices = p.devices := by
  cases k <;> rfl

end

/-! ### One call -/

theorem follow_eq (k : Dropdown) (p : Menus) (settings : Settings) : follow world k p settings = do
    let choices ← offered world settings (choicesOn world settings k)
    return (choices.isSome,p.withChoices k (choices.getD [])) := by
  cases k <;> rfl

/-- A device that does not open is told about; one that opens is closed again. -/
theorem offered_run {α : Type} (settings : Settings) (offers : Handle → Act ω (List (Choice α))) (s : ω) :
    let path := settings.getText Settings.deviceKey
    (offered world settings offers).run s = match world.openDevice path .probe s with
      | (.error fault,s') => ⟨none,[.refused path .probe fault,.noticed (.selectionNotOpened path fault)],s'⟩
      | (.ok number,s') =>
        let device : Handle := ⟨path,.probe,number⟩
        let listing := (offers device).run s'
        ⟨some listing.value,.opened device :: (listing.history ++ [.closed device]),world.close device listing.state⟩ := by
  intro path
  rcases answer : world.openDevice path .probe s with ⟨fault | number,s'⟩
  · simp only [offered,World.usingDevice,bind_assoc]
    rw [Course.run_bind,openAt_refused answer]
    rfl
  · simp only [offered,World.usingDevice,bind_assoc]
    rw [Course.run_bind,openAt_opened answer]
    simp only [bind_assoc,pure_bind,Course.run_bind,Course.run_pure,List.append_nil]
    rfl

section
variable {α : Type} {device : Handle}

theorem asks_of_listed {entry : UInt32 → Except Fault (Option α) → Event}
    (asks : ∀ i answer, ∃ r reply, entry i answer = .asked device r reply) {count : Nat} {index : UInt32}
    {entries : List α} {h : History} (listed : Listed entry count index entries h) :
    ∀ e ∈ h, ∃ r reply, e = .asked device r reply := by
  induction listed with
  | enough => exact List.forall_mem_nil _
  | entry _ ih => exact List.forall_mem_cons.mpr ⟨asks ..,ih⟩
  | last => exact List.forall_mem_singleton.mpr (asks ..)
  | failed => exact List.forall_mem_singleton.mpr (asks ..)

theorem asks_of_offered {entry : UInt32 → Except Fault (Option (Offer α)) → Event}
    (asks : ∀ i answer, ∃ r reply, entry i answer = .asked device r reply) {fixed values : List α} {h : History}
    (offered : Offered entry fixed values h) : ∀ e ∈ h, ∃ r reply, e = .asked device r reply := by
  cases offered with
  | listed all => exact List.forall_mem_cons.mpr ⟨asks ..,asks_of_listed asks all⟩
  | fixed ranged => exact List.forall_mem_singleton.mpr (asks ..)

end

/-- What an open device offers is found out by requests to it, and by nothing else. -/
theorem choicesOn_asks (settings : Settings) (k : Dropdown) (device : Handle) (s : ω) :
    (choicesOn world settings k device).Yields s fun _ h => ∀ e ∈ h, ∃ r reply, e = .asked device r reply := by
  cases k with
  | formats =>
    refine yields_mono ?_ (World.formats_listed world device s)
    rintro _ h ⟨_,listed,-⟩
    exact asks_of_listed (fun _ _ => ⟨_,_,rfl⟩) listed
  | resolutions =>
    refine yields_mono ?_ (World.resolutions_offered world device _ s)
    rintro _ h ⟨_,offered,-⟩
    exact asks_of_offered (fun _ _ => ⟨_,_,rfl⟩) offered
  | framerates =>
    refine yields_mono ?_ (World.framerates_offered world device _ _ _ s)
    rintro _ h ⟨_,offered,-⟩
    exact asks_of_offered (fun _ _ => ⟨_,_,rfl⟩) offered

/-- What a call on `p` that starts in state `s` does. -/
structure Followed (settings : Settings) (k : Dropdown) (p : Menus) (s : ω) (run : Run Event ω (Bool × Menus)) :
    Prop where
  devices : run.value.2.devices = p.devices
  others : ∀ k' ≠ k, run.value.2.list k' = p.list k'
  own : run.value.2.list k = ⟨(p.list k).key,rebuilt world settings k s⟩
  /-- It tells if the device opened. One that opened is asked what it offers and closed again. -/
  seen :
    let path := settings.getText Settings.deviceKey
    match world.openDevice path .probe s with
    | (.error fault,s') => run.value.1 = false ∧ (run.value.2.list k).choices = [] ∧
        observed run.history = [.refused path .probe fault] ∧ run.state = s'
    | (.ok number,s') =>
      let device : Handle := ⟨path,.probe,number⟩
      let listing := (choicesOn world settings k device).run s'
      run.value.1 = true ∧ (run.value.2.list k).choices = listing.value ∧
        observed run.history = .opened device :: (observed listing.history ++ [.closed device]) ∧
        (∀ e ∈ observed listing.history, ∃ r reply, e = .asked device r reply) ∧
        run.state = world.close device listing.state

theorem Followed.key {settings : Settings} {k : Dropdown} {p : Menus} {s : ω} {run : Run Event ω (Bool × Menus)}
    (followed : Followed world settings k p s run) (k' : Dropdown) :
    (run.value.2.list k').key = (p.list k').key := by
  by_cases own : k' = k
  · subst own
    rw [followed.own]
  · rw [followed.others k' own]

theorem follow_followed (settings : Settings) (k : Dropdown) (p : Menus) (s : ω) :
    Followed world settings k p s ((follow world k p settings).run s) := by
  have run := offered_run world settings (choicesOn world settings k) s
  have value : ((offered world settings (choicesOn world settings k)).run s).value.getD [] =
      rebuilt world settings k s := by
    rw [run,rebuilt]
    rcases world.openDevice (settings.getText Settings.deviceKey) .probe s with ⟨fault | number,s'⟩ <;> rfl
  rw [follow_eq,Course.run_bind,Course.run_pure,List.append_nil]
  constructor
  · exact devices_withChoices ..
  · intro k' other
    exact list_withChoices_of_ne _ _ _ other
  · rw [list_withChoices_self,value]
  · simp only [list_withChoices_self]
    rcases opening : world.openDevice (settings.getText Settings.deviceKey) .probe s with ⟨fault | number,s'⟩
    · simp only [opening] at run
      rw [run]
      exact ⟨rfl,rfl,rfl,rfl⟩
    · simp only [opening] at run
      rw [run]
      refine ⟨rfl,rfl,?_,choicesOn_asks world settings k _ s',rfl⟩
      rw [observed_cons rfl,observed_append]
      rfl

/-! ### Calls one after the other -/

theorem followAll_cons (call : Call ω) (calls : List (Call ω)) (p : Menus) (s : ω) :
    let first := (follow world call.dropdown p call.settings).run (call.meanwhile s)
    let rest := (followAll world calls first.value.2).run first.state
    (followAll world (call :: calls) p).run s = ⟨rest.value,first.history ++ rest.history,rest.state⟩ := rfl

theorem followAll_devices (calls : List (Call ω)) (p : Menus) (s : ω) :
    ((followAll world calls p).run s).value.devices = p.devices := by
  induction calls generalizing p s with
  | nil => rfl
  | cons call calls ih =>
    rw [followAll_cons,ih]
    exact (follow_followed world call.settings call.dropdown p (call.meanwhile s)).devices

/-- After all calls a list is what its own latest call makes of it, or what it was if it had no call. -/
def Latest (calls : List (Call ω)) (k : Dropdown) (p : Menus) (s : ω) (l : ChoiceList k.Value) : Prop :=
  (∀ call ∈ calls, call.dropdown ≠ k) ∧ l = p.list k ∨
  ∃ before call after, calls = before ++ call :: after ∧ call.dropdown = k ∧ (∀ later ∈ after, later.dropdown ≠ k) ∧
    let reached := ((followAll world before p).run s).state
    l = ⟨(p.list k).key,rebuilt world call.settings k (call.meanwhile reached)⟩

theorem followAll_latest (calls : List (Call ω)) (k : Dropdown) (p : Menus) (s : ω) :
    Latest world calls k p s (((followAll world calls p).run s).value.list k) := by
  induction calls generalizing p s with
  | nil => exact .inl ⟨List.forall_mem_nil _,rfl⟩
  | cons call calls ih =>
    have followed := follow_followed world call.settings call.dropdown p (call.meanwhile s)
    rw [followAll_cons]
    obtain ⟨none,kept⟩ | ⟨before,latest,after,rfl,own,none,made⟩ := ih _ _
    · by_cases own : call.dropdown = k
      · subst own
        exact .inr ⟨[],call,calls,rfl,rfl,none,kept.trans followed.own⟩
      · exact .inl ⟨List.forall_mem_cons.mpr ⟨own,none⟩,kept.trans (followed.others k fun same => own same.symm)⟩
    · refine .inr ⟨call :: before,latest,after,rfl,own,none,made.trans ?_⟩
      rw [followed.key]
      rfl

/-! ### All lists at once -/

/-- The three calls in the order of the lists, on devices that nothing else happens to. -/
def inOrder (settings : Settings) : List (Call ω) :=
  [⟨.formats,settings,id⟩,⟨.resolutions,settings,id⟩,⟨.framerates,settings,id⟩]

theorem new_choices (s : ω) (k : Dropdown) : (((new world).run s).value.list k).choices = [] := by
  cases k <;> rfl

/-- What building all lists does. If the device does not open, it stays with the new dialogue, and nothing is opened after
    that. -/
def Built (settings : Settings) (s : ω) (run : Run Event ω Menus) : Prop :=
  let path := settings.getText Settings.deviceKey
  let start := (new world).run s
  match world.openDevice path .probe start.state with
  | (.error fault,s') => run.value = start.value ∧ (∀ k, (run.value.list k).choices = []) ∧
      observed run.history = observed start.history ++ [.refused path .probe fault] ∧ run.state = s'
  | (.ok _,_) => run = (new world >>= followAll world (inOrder settings)).run s

/-- The second and the third call are made if the first one tells that the device opened. -/
theorem build_eq (settings : Settings) : build world settings = do
    let p ← new world
    let first ← follow world .formats p settings
    if first.1 then followAll world (inOrder settings).tail first.2 else return first.2 := rfl

theorem build_built (settings : Settings) (s : ω) : Built world settings s ((build world settings).run s) := by
  have followed := follow_followed world settings .formats ((new world).run s).value ((new world).run s).state
  have seen := followed.seen
  rw [Built,build_eq,Course.run_bind,Course.run_bind]
  rcases opening : world.openDevice (settings.getText Settings.deviceKey) .probe ((new world).run s).state with
    ⟨fault | number,s'⟩
  · simp only [opening] at seen ⊢
    obtain ⟨failed,none,refused,left⟩ := seen
    simp only [failed,Bool.false_eq_true,↓reduceIte,Course.run_pure,List.append_nil]
    have same : ((follow world .formats ((new world).run s).value settings).run ((new world).run s).state).value.2 =
        ((new world).run s).value := by
      refine eq_of_list followed.devices fun k => ?_
      by_cases first : k = .formats
      · subst first
        rw [followed.own] at none ⊢
        exact congrArg (ChoiceList.mk _) none
      · exact followed.others k first
    refine ⟨same,?_,?_,left⟩
    · rw [same]
      exact new_choices world s
    · rw [observed_append,refused]
  · simp only [opening] at seen ⊢
    simp only [seen.1,↓reduceIte]
    rfl

/-- Every call opens the device of its settings at most once and closes it again before it is over. It tells if the
    device opened, and its own list, and no other, becomes what the device offers for the pixel format and the size of
    the settings, or nothing. So after any calls, whatever became of the devices in between, a list is what its own
    latest call made of it, by the settings and the devices at that time. To build all lists is to make the three calls
    on a new dialogue, unless the device does not open. -/
theorem lists_follow :
    (∀ settings k p s, Followed world settings k p s ((follow world k p settings).run s)) ∧
    (∀ calls p s, ((followAll world calls p).run s).value.devices = p.devices ∧
      ∀ k, Latest world calls k p s (((followAll world calls p).run s).value.list k)) ∧
    ∀ settings s, Built world settings s ((build world settings).run s) := by
  refine ⟨follow_followed world,?_,build_built world⟩
  intro calls p s
  exact ⟨followAll_devices world calls p s,fun k => followAll_latest world calls k p s⟩

end VideoCapture.Menus
