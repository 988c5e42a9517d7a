import Guildkeep.Proofs.Save.Happenings
import Guildkeep.Proofs.Save.Hearing

/-!
# Who Is Called

When an event is emitted those listeners are called who are registered at that moment, each once and
in the order in which they registered. Meanwhile they may break down, register others, remove others
or themselves, or switch autosave off, which is an emission of its own in the midst of the first
one. None of that changes who is called; it changes who is called the next time.

## Conventions

The history is written down beside what a desk does, and the laws tie it to the desk at every turn:
those who are present by the history are those in the roster, in order, and the calls in the history
are those in the log.

What a listener does depends on the occasion, and no two occasions are the same. Beyond that the
listeners may change what they do between two emissions, each in its own way, and names may come to
stand for any number.

## Main results

* `Desk.Goes`: between two desks something **happens**, by the rules.
* `Desk.goes_tell`: those who are told are called, each once and in order, **whatever they do**.
* `Desk.run_ask`: what a desk does at a request is one of the **runs**.
* `Desk.registered_listeners_called`: every emission of every run calls those who are **registered
  when it begins**.
-/

namespace Guildkeep.Save.Desk

/-- Removes the listener with a number, and says whether there was one. -/
def removeListener (d : Desk) (id : Nat) : Bool × Desk :=
  let removed := d.manager.roster.remove id
  (removed.1, { d with manager := { d.manager with roster := removed.2 } })

/-- A listener is removed by the **last number** under its name. -/
theorem unlisten_eq (d : Desk) (name : String) :
    d.unlisten name =
      match d.names.get? name with
      | some id => (some (d.removeListener id).1, (d.removeListener id).2)
      | none => (none, d) :=
  rfl

/-! ### What happens while listeners are told -/

section Telling

variable (disable : Desk → Desk) (noted : Desk → List Happening)

/-- What **happens** while a listener does what it does, given what happens when autosave is
switched off at its wish. -/
def reactHappenings : List Reaction → Desk → List Happening
  | [], _ => []
  | .panics :: _, _ => []
  | .removes name :: rest, d =>
    ((d.names.get? name).map fun id => .removes id (d.removeListener id).1).toList ++
      reactHappenings rest (d.unlisten name).2
  | .adds name reactions :: rest, d =>
    (if d.names.has name then [] else [.registers d.manager.roster.nextId name]) ++
      reactHappenings rest (d.listenNew ⟨name, reactions⟩)
  | .disablesAutoSave :: rest, d => noted d ++ reactHappenings rest (disable d)
  | .peeks :: rest, d => reactHappenings rest d

/-- What happens while listeners are **told** of the event of an emission, one after another. -/
def tellHappenings (emission : Nat) (e : Event) : List (Nat × Listener) → Desk → List Happening
  | [], _ => []
  | (id, l) :: rest, d =>
    .calls emission e id l.name ::
      (reactHappenings disable noted (l.reactions (d.occasion e))
          { d with scene := d.scene.note (.heard l.name e (d.seenBy e l)) } ++
        tellHappenings emission e rest (tellOne disable e d l))

/-- What happens while an event is **emitted**. -/
def emitWithHappenings (d : Desk) (o : Outline) : List Happening :=
  let made := d.scene.make o
  .begins d.scene.log.length made.1 ::
    tellHappenings disable noted d.scene.log.length made.1 d.manager.roster.listeners
      { d with scene := made.2.note (.told made.1) }

end Telling

/-- What happens when autosave is switched off at the wish of a listener. -/
def disableHappenings (d : Desk) : List Happening :=
  if d.manager.autoSave then
    emitWithHappenings id (fun _ => []) { d with manager := { d.manager with autoSave := false } }
      Manager.disabled
  else []

/-- What happens while an event is emitted. -/
def emitHappenings (d : Desk) (o : Outline) : List Happening :=
  emitWithHappenings disable disableHappenings d o

/-! ### Laws of a history -/

/-- A desk **keeps to the history**: its roster has those who are present, in order, and numbers are
given one after another. -/
structure Tracks (past : List Happening) (d : Desk) : Prop where
  numbered : (registrations past).map (·.1) = List.range d.manager.roster.nextId
  listeners : d.manager.roster.listeners.map (fun p => (p.1, p.2.name)) = present past
  removed : ∀ id ∈ removals past, id < d.manager.roster.nextId
  /-- Emissions that have not begun have called nobody. -/
  earlier : ∀ n, d.scene.log.length ≤ n → past.filterMap (Happening.called? n) = []

/-- From one desk to another `more` **happens** after what has happened so far, and by the rules.
Calls belong to emissions that begin in between, or are `ours`. -/
structure Goes (ours : Nat → Prop) (past : List Happening) (d : Desk) (more : List Happening)
    (d' : Desk) : Prop where
  tracks : Tracks (past ++ more) d'
  noticed : d.scene.log.length ≤ d'.scene.log.length
  begun : ∀ n e, .begins n e ∈ more → d.scene.log.length ≤ n ∧ n < d'.scene.log.length
  called : ∀ n, more.filterMap (Happening.called? n) ≠ [] → ours n ∨ ∃ e, .begins n e ∈ more
  /-- A removal finds someone exactly if there is someone to remove. -/
  removal : ∀ before id there after, more = before ++ .removes id there :: after →
    (there = true ↔ id ∈ (present (past ++ before)).map (·.1))
  /-- An emission calls those who are present when it begins. -/
  emission : ∀ before n e after, more = before ++ .begins n e :: after →
    (past ++ before).filterMap (Happening.called? n) = [] ∧
      after.filterMap (Happening.called? n) = (present (past ++ before)).map (·, e)
  attended : d'.scene.attended = d.scene.attended ++ more.filterMap Happening.attended?

/-- Where nobody comes and nobody goes the **same** are present. -/
theorem Tracks.extend {past more : List Happening} {d d' : Desk} (h : Tracks past d)
    (hregistrations : registrations more = []) (hremovals : removals more = [])
    (hnext : d'.manager.roster.nextId = d.manager.roster.nextId)
    (hlisteners : d'.manager.roster.listeners.map (fun p => (p.1, p.2.name)) =
      d.manager.roster.listeners.map (fun p => (p.1, p.2.name)))
    (hnoticed : d.scene.log.length ≤ d'.scene.log.length)
    (hcalled : ∀ n, d'.scene.log.length ≤ n → more.filterMap (Happening.called? n) = []) :
    Tracks (past ++ more) d' where
  numbered := by rw [registrations_append, hregistrations, List.append_nil, h.numbered, hnext]
  listeners := by rw [hlisteners, h.listeners, present_append hregistrations hremovals]
  removed := by
    rw [removals_append, hremovals, List.append_nil, hnext]
    exact h.removed
  earlier n hn := by
    rw [List.filterMap_append, h.earlier n (hnoticed.trans hn), hcalled n hn, List.nil_append]

/-- Something happens by the rules while **no** emission goes on that began before. -/
abbrev Unfolds (past : List Happening) (d : Desk) (more : List Happening) (d' : Desk) : Prop :=
  Goes (fun _ => False) past d more d'

namespace Goes

variable {ours : Nat → Prop} {past more later : List Happening} {d d' d'' : Desk}

/-- Nothing of an emission that began in the first part is left for the second part. -/
theorem trans (h : Goes ours past d more d') (h' : Goes ours (past ++ more) d' later d'')
    (hours : ∀ n, ours n → n < d.scene.log.length) : Goes ours past d (more ++ later) d'' where
  tracks := by
    rw [← List.append_assoc]
    exact h'.tracks
  noticed := h.noticed.trans h'.noticed
  begun n e hbegins := by
    have hle := h.noticed
    have hle' := h'.noticed
    obtain hbegins | hbegins := List.mem_append.1 hbegins
    · have hbegun := h.begun n e hbegins
      omega
    · have hbegun := h'.begun n e hbegins
      omega
  called n hcalled := by
    rw [List.filterMap_append, Ne, List.append_eq_nil_iff, not_and_or] at hcalled
    obtain hcalled | hcalled := hcalled
    · exact (h.called n hcalled).imp_right fun ⟨e, hbegins⟩ => ⟨e, List.mem_append_left _ hbegins⟩
    · exact (h'.called n hcalled).imp_right fun ⟨e, hbegins⟩ => ⟨e, List.mem_append_right _ hbegins⟩
  removal before id there after hsplit := by
    obtain ⟨between, hfirst, -⟩ | ⟨between, rfl, hsecond⟩ := append_eq_append_cons hsplit
    · exact h.removal before id there between hfirst
    · rw [← List.append_assoc]
      exact h'.removal between id there after hsecond
  emission before n e after hsplit := by
    obtain ⟨between, hfirst, rfl⟩ | ⟨between, rfl, hsecond⟩ := append_eq_append_cons hsplit
    · obtain ⟨hbefore, hafter⟩ := h.emission before n e between hfirst
      have hnone : later.filterMap (Happening.called? n) = [] := by
        by_contra hcalled
        have hbegun := h.begun n e (hfirst ▸ List.mem_append_right _ List.mem_cons_self)
        obtain hn | ⟨e', hbegins⟩ := h'.called n hcalled
        · have hlt := hours n hn
          omega
        · have hbegun' := h'.begun n e' hbegins
          omega
      exact ⟨hbefore, by rw [List.filterMap_append, hnone, List.append_nil, hafter]⟩
    · rw [← List.append_assoc]
      exact h'.emission between n e after hsecond
  attended := by
    rw [h'.attended, h.attended, List.filterMap_append, List.append_assoc]

/-- Where **nothing happens** to listeners the roster stays as it is, and only emissions are noticed
by them. -/
theorem quiet (h : Tracks past d) (hnext : d'.manager.roster.nextId = d.manager.roster.nextId)
    (hlisteners : d'.manager.roster.listeners.map (fun p => (p.1, p.2.name)) =
      d.manager.roster.listeners.map (fun p => (p.1, p.2.name)))
    (hnoticed : d.scene.log.length ≤ d'.scene.log.length)
    (hattended : d'.scene.attended = d.scene.attended) : Goes ours past d [] d' where
  tracks := h.extend rfl rfl hnext hlisteners hnoticed fun _ _ => rfl
  noticed := hnoticed
  begun n e hbegins := absurd hbegins List.not_mem_nil
  called n hcalled := absurd List.filterMap_nil hcalled
  removal before id there after hsplit := absurd hsplit.symm (by simp)
  emission before n e after hsplit := absurd hsplit.symm (by simp)
  attended := by rw [hattended, List.filterMap_nil, List.append_nil]

/-- Where nothing happens **nothing goes on**. -/
theorem refl (h : Tracks past d) : Goes ours past d [] d :=
  quiet h rfl rfl le_rfl rfl

end Goes

namespace Unfolds

variable {past more later : List Happening} {d d' d'' : Desk}

/-- What unfolds, and goes on unfolding, **unfolds**. -/
theorem trans (h : Unfolds past d more d') (h' : Unfolds (past ++ more) d' later d'') :
    Unfolds past d (more ++ later) d'' :=
  Goes.trans h h' fun _ => False.elim

/-- What goes on in **no** emission may go on in ours, whichever ours are. -/
theorem goes (h : Unfolds past d more d') (ours : Nat → Prop) : Goes ours past d more d' :=
  { h with called := fun n hcalled => (h.called n hcalled).imp_left False.elim }

/-- Nobody is called in an emission that began **before**. -/
theorem filterMap_called (h : Unfolds past d more d') {n : Nat} (hn : n < d.scene.log.length) :
    more.filterMap (Happening.called? n) = [] := by
  by_contra hcalled
  obtain hours | ⟨e, hbegins⟩ := h.called n hcalled
  · exact hours
  · have hbegun := h.begun n e hbegins
    omega

end Unfolds

/-! ### Registering, removing, calling -/

variable {ours : Nat → Prop} {past : List Happening} {d : Desk}

/-- One thing happens that is neither a removal nor the beginning of an emission. -/
theorem Goes.single {h : Happening} {d' : Desk} (htracks : Tracks (past ++ [h]) d')
    (hnoticed : d.scene.log.length ≤ d'.scene.log.length) (hbegins : ∀ n e, h ≠ .begins n e)
    (hremoves : ∀ id there, h = .removes id there →
      (there = true ↔ id ∈ (present past).map (·.1)))
    (hcalled : ∀ n, h.called? n ≠ none → ours n)
    (hattended : d'.scene.attended = d.scene.attended ++ h.attended?.toList) :
    Goes ours past d [h] d' where
  tracks := htracks
  noticed := hnoticed
  begun n e hmem := absurd (List.mem_singleton.1 hmem).symm (hbegins n e)
  called n hne := .inl (hcalled n fun hnone => hne (by simp [hnone]))
  removal before id there after hsplit := by
    obtain ⟨rfl, heq, -⟩ := singleton_eq_append_cons hsplit
    rw [List.append_nil]
    exact hremoves id there heq
  emission before n e after hsplit := by
    obtain ⟨-, heq, -⟩ := singleton_eq_append_cons hsplit
    exact absurd heq (hbegins n e)
  attended := by
    rw [hattended]
    cases hshown : h.attended? <;> simp [hshown]

/-- A listener that registers gets a **number of its own**, and is present from then on. -/
theorem goes_listen (h : Tracks past d) (l : Listener) :
    Goes ours past d [.registers d.manager.roster.nextId l.name] (d.listen l) := by
  have hnew : d.manager.roster.nextId ∉ removals past :=
    fun hmem => Nat.lt_irrefl _ (h.removed _ hmem)
  refine .single ⟨?_, ?_, ?_, ?_⟩ le_rfl (fun _ _ h => by cases h) (fun _ _ h => by cases h)
    (fun n hn => absurd rfl hn) (List.append_nil _).symm
  · rw [registrations_append, List.map_append, h.numbered]
    exact List.range_succ.symm
  · rw [present_registers hnew, ← h.listeners]
    exact List.map_append
  · rw [removals_append]
    intro id hid
    exact Nat.lt_succ_of_lt (h.removed id (List.append_nil (removals past) ▸ hid))
  · intro n hn
    rw [List.filterMap_append, h.earlier n hn]
    rfl

/-- A removal finds the listener exactly if it is **present**. -/
theorem Tracks.removeListener_iff (h : Tracks past d) (id : Nat) :
    (d.removeListener id).1 = true ↔ id ∈ (Save.present past).map (·.1) := by
  rw [← h.listeners, List.map_map]
  change d.manager.roster.listeners.any (·.1 = id) = true ↔ _
  simp

/-- A removal takes **that listener only**. -/
theorem goes_removeListener (h : Tracks past d) (id : Nat) :
    Goes ours past d [.removes id (d.removeListener id).1] (d.removeListener id).2 := by
  have hthere := h.removeListener_iff id
  refine .single ⟨?_, ?_, ?_, ?_⟩ le_rfl (fun _ _ h => by cases h) ?_
    (fun n hn => absurd rfl hn) (List.append_nil _).symm
  · rw [registrations_append]
    exact (congrArg (List.map _) (List.append_nil _)).trans h.numbered
  · rw [present_removes hthere, ← h.listeners, List.filter_map]
    rfl
  · intro id' hid
    rw [removals_append, List.mem_append] at hid
    obtain hid | hid := hid
    · exact h.removed id' hid
    · obtain ⟨hfound, rfl⟩ : (d.removeListener id).1 = true ∧ id = id' := by
        simpa [removals, Happening.removed?] using hid
      have hmem := (mem_present_iff.1 (hthere.1 hfound)).1
      rw [h.numbered] at hmem
      exact List.mem_range.1 hmem
  · intro n hn
    rw [List.filterMap_append, h.earlier n hn]
    rfl
  · rintro id' there heq
    obtain ⟨rfl, rfl⟩ := Happening.removes.inj heq
    exact hthere

/-- In an emission of ours a listener is **called**. -/
theorem goes_call (h : Tracks past d) {n : Nat} (hn : n < d.scene.log.length) (e : Event) (id : Nat)
    (name : String) (seen : Option Glimpse) :
    Goes (· = n) past d [.calls n e id name]
      { d with scene := d.scene.note (.heard name e seen) } := by
  have hlog : (d.scene.note (.heard name e seen)).log.length = d.scene.log.length + 1 :=
    d.scene.length_log_note _
  have hnone : ∀ m, n ≠ m → [Happening.calls n e id name].filterMap (Happening.called? m) = [] := by
    intro m hne
    simp [Happening.called?, hne]
  have hnoticed : d.scene.log.length ≤ (d.scene.note (.heard name e seen)).log.length := by omega
  refine .single (h.extend rfl rfl rfl rfl hnoticed fun m hm => hnone m ?_) hnoticed
    (fun _ _ h => by cases h) (fun _ _ h => by cases h) (fun m hm => ?_) (d.scene.attended_note _)
  · change (d.scene.note (.heard name e seen)).log.length ≤ m at hm
    omega
  · by_contra hne
    exact hm (if_neg (Ne.symm hne))

/-- An event that is queued has already been told. -/
theorem goes_enqueue (h : Tracks past d) (e : Event) : Goes ours past d [] (d.enqueue e) := by
  rw [enqueue]
  split
  · exact .quiet h rfl rfl le_rfl rfl
  · exact .refl h

/-! ### Telling -/

/-- Whatever came before, autosave is switched off **by the rules**. -/
def Lawful (disable : Desk → Desk) (noted : Desk → List Happening) : Prop :=
  ∀ past d, Tracks past d → Unfolds past d (noted d) (disable d)

section Telling

variable {disable : Desk → Desk} {noted : Desk → List Happening}

/-- While a listener does what it does everything goes **by the rules**. -/
theorem goes_react (hdisable : Lawful disable noted) (reactions : List Reaction)
    (h : Tracks past d) :
    Unfolds past d (reactHappenings disable noted reactions d)
      (react disable reactions d) := by
  induction reactions generalizing past d with
  | nil => exact .refl h
  | cons reaction rest ih =>
    cases reaction with
    | panics => exact .refl h
    | removes name =>
      have hfirst : Unfolds past d
          ((d.names.get? name).map fun id => .removes id (d.removeListener id).1).toList
          (d.unlisten name).2 := by
        rw [unlisten_eq]
        cases d.names.get? name with
        | none => exact .refl h
        | some id => exact goes_removeListener h id
      exact hfirst.trans (ih hfirst.tracks)
    | adds name reactions =>
      have hfirst : Unfolds past d
          (if d.names.has name then [] else [.registers d.manager.roster.nextId name])
          (d.listenNew ⟨name, reactions⟩) := by
        rw [listenNew]
        split
        · exact .refl h
        · exact goes_listen h ⟨name, reactions⟩
      exact hfirst.trans (ih hfirst.tracks)
    | disablesAutoSave =>
      have hfirst := hdisable past d h
      exact hfirst.trans (ih hfirst.tracks)
    | peeks => exact ih h

/-- The listeners of an emission of ours are **called**, each once and in order, whatever they
do. -/
theorem goes_tell (hdisable : Lawful disable noted) {n : Nat} (e : Event)
    (listeners : List (Nat × Listener)) (h : Tracks past d) (hn : n < d.scene.log.length) :
    Goes (· = n) past d (tellHappenings disable noted n e listeners d)
        ((listeners.map (·.2)).foldl (tellOne disable e) d) ∧
      (tellHappenings disable noted n e listeners d).filterMap (Happening.called? n) =
        (listeners.map fun p => (p.1, p.2.name)).map (·, e) := by
  induction listeners generalizing past d with
  | nil => exact ⟨.refl h, rfl⟩
  | cons p rest ih =>
    obtain ⟨id, l⟩ := p
    have hcall := goes_call h hn e id l.name (d.seenBy e l)
    have hreact := goes_react hdisable (l.reactions (d.occasion e)) hcall.tracks
    have hours : ∀ m, m = n → m < d.scene.log.length := fun m hm => hm ▸ hn
    have hone := hcall.trans (hreact.goes _) hours
    have hafter := hn.trans_le hone.noticed
    obtain ⟨hrest, hcalled⟩ := ih hone.tracks hafter
    have hall := hone.trans hrest hours
    rw [List.append_assoc] at hall
    refine ⟨hall, ?_⟩
    have hothers := hreact.filterMap_called (hn.trans_le hcall.noticed)
    have hown : Happening.called? n (.calls n e id l.name) = some ((id, l.name), e) := if_pos rfl
    rw [tellHappenings, List.filterMap_cons_some hown, List.filterMap_append, hothers]
    exact congrArg (List.cons _) hcalled

/-- An emission **begins** and calls those who are present. -/
theorem Unfolds.begin {e : Event} {told d' : Desk} {more : List Happening} (h : Tracks past d)
    (hlog : told.scene.log.length = d.scene.log.length + 1)
    (hattended : told.scene.attended = d.scene.attended ++ [(none, e)])
    (htell : Goes (· = d.scene.log.length) (past ++ [.begins d.scene.log.length e]) told more d')
    (hcalls : more.filterMap (Happening.called? d.scene.log.length) = (present past).map (·, e)) :
    Unfolds past d (.begins d.scene.log.length e :: more) d' where
  tracks := by
    have htracks := htell.tracks
    rwa [List.append_assoc] at htracks
  noticed := by
    have hle := htell.noticed
    omega
  begun n e' hbegins := by
    have hle := htell.noticed
    obtain heq | hbegins := List.mem_cons.1 hbegins
    · obtain ⟨rfl, -⟩ := Happening.begins.inj heq
      omega
    · have hbegun := htell.begun n e' hbegins
      omega
  called n hcalled := by
    obtain rfl | ⟨e', hbegins⟩ := htell.called n hcalled
    · exact .inr ⟨e, List.mem_cons_self⟩
    · exact .inr ⟨e', List.mem_cons_of_mem _ hbegins⟩
  removal before id there after hsplit := by
    cases before with
    | nil =>
      obtain ⟨heq, -⟩ := List.cons.inj hsplit
      cases heq
    | cons first before =>
      obtain ⟨rfl, hrest⟩ := List.cons.inj hsplit
      have hremoval := htell.removal before id there after hrest
      rwa [List.append_assoc] at hremoval
  emission before n e' after hsplit := by
    cases before with
    | nil =>
      obtain ⟨heq, rfl⟩ := List.cons.inj hsplit
      obtain ⟨rfl, rfl⟩ := Happening.begins.inj heq
      rw [List.append_nil]
      exact ⟨h.earlier _ le_rfl, hcalls⟩
    | cons first before =>
      obtain ⟨rfl, hrest⟩ := List.cons.inj hsplit
      have hemission := htell.emission before n e' after hrest
      rwa [List.append_assoc] at hemission
  attended := by
    rw [htell.attended, hattended, List.append_assoc]
    rfl

/-- An event is **emitted** by the rules: those are called who are present when the emission
begins. -/
theorem goes_emitWith (hdisable : Lawful disable noted) (o : Outline) (h : Tracks past d) :
    Unfolds past d (emitWithHappenings disable noted d o) (emitWith disable d o) := by
  let e := (d.scene.make o).1
  let told : Desk := { d with scene := (d.scene.make o).2.note (.told e) }
  have hlog : told.scene.log.length = d.scene.log.length + 1 := Scene.length_log_note ..
  have hattended : told.scene.attended = d.scene.attended ++ [(none, e)] := Scene.attended_note ..
  have htold : Tracks (past ++ [.begins d.scene.log.length e]) told :=
    h.extend rfl rfl rfl rfl (by omega) fun _ _ => rfl
  have hbegun : d.scene.log.length < told.scene.log.length := by omega
  obtain ⟨htell, hcalls⟩ := goes_tell hdisable e d.manager.roster.listeners htold hbegun
  rw [h.listeners] at hcalls
  have hemit := Unfolds.begin h hlog hattended htell hcalls
  have hall := hemit.trans (goes_enqueue hemit.tracks e)
  rwa [List.append_nil] at hall

end Telling

/-- To do nothing is **lawful**. -/
theorem lawful_id : Lawful id fun _ => [] :=
  fun _ _ h => .refl h

/-- To switch autosave off is an emission of its **own**, in which no listener switches it off
again. -/
theorem lawful_disable : Lawful disable disableHappenings := by
  intro past d h
  rw [disableHappenings, disable]
  split
  · have hoff : Unfolds past d []
        { d with manager := { d.manager with autoSave := false } } :=
      .quiet h rfl rfl le_rfl rfl
    exact hoff.trans (goes_emitWith lawful_id Manager.disabled hoff.tracks)
  · exact .refl h

/-- An event that is emitted is attended by those who are **registered**. -/
theorem goes_emit (h : Tracks past d) (o : Outline) :
    Unfolds past d (emitHappenings d o) (d.emit o) :=
  goes_emitWith lawful_disable o h

/-! ### What else is done at a desk -/

/-- What is taken on to the bus has **already** been told. -/
theorem goes_forward (h : Tracks past d) : Unfolds past d [] d.forward := by
  rw [forward]
  split
  case h_1 => exact .refl h
  case h_2 e queue _ =>
    have hbusied := (d.scene.note (.taken e)).busied_publish e .behind
    have hlog : d.scene.log.length ≤ (d.scene.note (.taken e)).log.length := by
      rw [Scene.length_log_note]
      exact Nat.le_succ _
    refine .quiet h rfl rfl (hlog.trans hbusied.length_log_le) (hbusied.attended.trans ?_)
    rw [Scene.attended_note]
    exact List.append_nil _

/-- Draining the queue is **no happening**. -/
theorem goes_drain (h : Tracks past d) : Unfolds past d [] d.drain := by
  rw [drain]
  induction d.manager.queue.length generalizing past d with
  | zero => exact .refl h
  | succ k ih =>
    have hfirst := goes_forward h
    exact hfirst.trans (ih hfirst.tracks)

/-- A listener, wherever it is registered, may **change its mind** about what it does. -/
def resolve (d : Desk) (reactions : Nat → Occasion → List Reaction) : Desk :=
  let listeners := d.manager.roster.listeners.map fun p =>
    (p.1, { p.2 with reactions := reactions p.1 })
  { d with manager := { d.manager with roster := { d.manager.roster with listeners } } }

/-- What is to be done at a call is **no happening** until it is done. -/
theorem goes_resolve (h : Tracks past d) (reactions : Nat → Occasion → List Reaction) :
    Unfolds past d [] (d.resolve reactions) := by
  refine .quiet h rfl ?_ le_rfl rfl
  exact List.map_map

variable {σ : Type} [Store σ]

/-- Until it tells anybody, **nothing happens** at a desk that answers. -/
theorem goes_answered (h : Tracks past d) (store : σ) (request : Request) :
    Unfolds past d [] (d.answered store request) := by
  obtain ⟨current, autoSave, hmanager⟩ := d.manager.manager_answer store d.scene.ambient request
  rw [answered, hmanager]
  exact .quiet h rfl rfl le_rfl rfl

/-! ### Runs -/

/-- A **step**: something is done at a desk. -/
inductive Step where
  /-- A listener is registered. -/
  | listen (l : Listener)
  /-- The listener with a number is removed. -/
  | remove (id : Nat)
  /-- The manager answers a request; what comes of it is to be emitted. -/
  | answer (request : Request)
  /-- An event is emitted. -/
  | emit (o : Outline)
  /-- What is queued goes on to the bus. -/
  | drain
  /-- From now on a name stands for a number, so that listeners may remove whom they know. -/
  | know (name : String) (id : Nat)
  /-- From now on the listeners do something else when they are called. -/
  | resolve (reactions : Nat → Occasion → List Reaction)

/-- What one step **leads to**. -/
def take (d : Desk) (store : σ) : Step → Desk × σ
  | .listen l => (d.listen l, store)
  | .remove id => ((d.removeListener id).2, store)
  | .answer request =>
    (d.answered store request, (d.manager.answer store d.scene.ambient request).store)
  | .emit o => (d.emit o, store)
  | .drain => (d.drain, store)
  | .know name id => ({ d with names := d.names.put name id }, store)
  | .resolve reactions => (d.resolve reactions, store)

/-- What **happens** to listeners in a step. -/
def happenings (d : Desk) : Step → List Happening
  | .listen l => [.registers d.manager.roster.nextId l.name]
  | .remove id => [.removes id (d.removeListener id).1]
  | .emit o => emitHappenings d o
  | .answer _ | .drain | .know .. | .resolve _ => []

/-- What steps **lead to**, one after another. -/
def run (d : Desk) (store : σ) : List Step → Desk × σ
  | [] => (d, store)
  | step :: steps => run (d.take store step).1 (d.take store step).2 steps

/-- The **history** of listeners in steps. -/
def history (d : Desk) (store : σ) : List Step → List Happening
  | [] => []
  | step :: steps => d.happenings step ++ history (d.take store step).1 (d.take store step).2 steps

/-- A step of a desk unfolds as the **happenings** of that step. -/
theorem goes_take (h : Tracks past d) (store : σ) (step : Step) :
    Unfolds past d (d.happenings step) (d.take store step).1 := by
  cases step with
  | listen l => exact goes_listen h l
  | remove id => exact goes_removeListener h id
  | answer request => exact goes_answered h store request
  | emit o => exact goes_emit h o
  | drain => exact goes_drain h
  | know name id => exact .quiet h rfl rfl le_rfl rfl
  | resolve reactions => exact goes_resolve h reactions

/-- Every run goes **by the rules**. -/
theorem goes_run (h : Tracks past d) (store : σ) (steps : List Step) :
    Unfolds past d (d.history store steps) (d.run store steps).1 := by
  induction steps generalizing past d store with
  | nil => exact .refl h
  | cons step steps ih =>
    have hfirst := goes_take h store step
    exact hfirst.trans (ih hfirst.tracks _)

/-- The steps in which events are emitted, and waited for if so asked. -/
def emitSteps (waits : Bool) (events : List Outline) : List Step :=
  events.flatMap fun o => if waits then [.emit o, .drain] else [.emit o]

/-- Emitting events one by one is **emitting them all**. -/
theorem run_emitSteps (d : Desk) (store : σ) (waits : Bool) (events : List Outline) :
    d.run store (emitSteps waits events) = (d.emitAll waits events, store) := by
  induction events generalizing d with
  | nil => rfl
  | cons o events ih => cases waits <;> exact ih _

/-- What a desk does at a **request** is such a run. -/
theorem run_ask (d : Desk) (store : σ) (request : Request) :
    d.run store (.answer request :: emitSteps request.waits
        (d.manager.answer store d.scene.ambient request).events) =
      ((d.ask store request).2.2, (d.ask store request).2.1) :=
  run_emitSteps ..

/-! ### The theorem -/

/-- Of numbers that are given one after another **none** comes again, while there are fewer of them
than there are numbers. -/
theorem nodup_map_ofNat {n : Nat} (hn : n ≤ 2 ^ 64) : ((List.range n).map UInt64.ofNat).Nodup := by
  refine List.Nodup.map_on (fun i hi j hj heq => ?_) List.nodup_range
  rw [List.mem_range] at hi hj
  have htoNat := congrArg UInt64.toNat heq
  rwa [UInt64.toNat_ofNat_of_lt' (hi.trans_le hn),
    UInt64.toNat_ofNat_of_lt' (hj.trans_le hn)] at htoNat

/-- Where **nobody** has registered yet nothing has happened. -/
theorem tracks_nil {d : Desk} (hnew : d.manager.roster = {}) : Tracks [] d where
  numbered := by
    rw [hnew]
    rfl
  listeners := by
    rw [hnew]
    rfl
  removed _ hid := absurd hid List.not_mem_nil
  earlier _ _ := rfl

/-- **Every emission calls those who are registered when it begins.** Whatever is done at a desk
where nobody has registered yet, and whatever the listeners do when they are called, those who are
called in an emission are those who are present when it begins, each once and in order, and nobody
is called but in an emission. A removal finds someone exactly if it is the first one since the
number was given, and takes off that listener only. Numbers are given one after another, so as long
as they fit none comes again. And the history is that of the roster and of the log. -/
theorem registered_listeners_called (start : Desk) (hnew : start.manager.roster = {}) (store : σ)
    (steps : List Step) :
    let past := start.history store steps
    let d := (start.run store steps).1
    (∀ before emission e after, past = before ++ .begins emission e :: after →
      ((present before).map (·.1)).Nodup ∧
      before.filterMap (Happening.called? emission) = [] ∧
      after.filterMap (Happening.called? emission) = (present before).map (·, e)) ∧
    (∀ emission, past.filterMap (Happening.called? emission) ≠ [] →
      ∃ e, .begins emission e ∈ past) ∧
    (∀ before id there after, past = before ++ .removes id there :: after →
      (there = true ↔ ∃ early name between, before = early ++ .registers id name :: between ∧
        id ∉ between.filterMap Happening.asked?) ∧
      present (before ++ [.removes id there]) = (present before).filter (·.1 ≠ id)) ∧
    (registrations past).map (·.1) = List.range d.manager.roster.nextId ∧
    (d.manager.roster.nextId ≤ 2 ^ 64 →
      ((registrations past).map fun p => UInt64.ofNat p.1).Nodup) ∧
    d.manager.roster.listeners.map (fun p => (p.1, p.2.name)) = present past ∧
    d.scene.attended = start.scene.attended ++ past.filterMap Happening.attended? := by
  intro past d
  have hgoes : Unfolds [] start past d := goes_run (tracks_nil hnew) store steps
  have hnumbered : (registrations past).map (·.1) = List.range d.manager.roster.nextId :=
    hgoes.tracks.numbered
  have hnumbers : ((registrations past).map (·.1)).Nodup := hnumbered ▸ List.nodup_range
  have hremoval : RemovesThePresent past := hgoes.removal
  refine ⟨fun before emission e after hsplit => ⟨?_, hgoes.emission before emission e after hsplit⟩,
    fun emission hcalled => (hgoes.called emission hcalled).resolve_left id,
    fun before id there after hsplit => ⟨hremoval.there_iff hnumbers hsplit,
      present_removes (hremoval before id there after hsplit)⟩,
    hnumbered, fun hfew => ?_, hgoes.tracks.listeners, hgoes.attended⟩
  · rw [hsplit, registrations_append, List.map_append] at hnumbers
    have hsublist : ((present before).map (·.1)).Sublist ((registrations before).map (·.1)) :=
      List.filter_sublist.map _
    exact (List.Nodup.of_append_left hnumbers).sublist hsublist
  · have h := nodup_map_ofNat hfew
    rwa [← hnumbered, List.map_map] at h

/-- A listener that removes another one and registers a new one when autosave is switched on and
removes itself when it is switched off, and one that breaks down. -/
theorem registered_listeners_called_self_removal :
    let start : Desk := ⟨{ roster := {} }, { ambient := { moments := fun _ => ⟨.epoch, "0"⟩ } }, {}⟩
    let fickle : Listener :=
      { name := "fickle"
        reactions := fun o =>
          if o.event.type = "game.autosave.enabled" then
            [.removes "last", .adds "late" fun _ => []]
          else [.removes "fickle"] }
    let steps : List Step :=
      [.listen fickle, .listen (.always "broken" [.panics]), .listen (.always "last"),
        .emit Manager.enabled, .emit Manager.disabled, .remove 0]
    let past := start.history ({} : Store.Memory) steps
    let d := (start.run ({} : Store.Memory) steps).1
    (∃ before e after, past = before ++ .begins 0 e :: after ∧
      present before = [(0, "fickle"), (1, "broken"), (2, "last")]) ∧
    (∃ before e after, past = before ++ .begins 4 e :: after ∧
      present before = [(0, "fickle"), (1, "broken"), (3, "late")]) ∧
    ((registrations past).map fun p => UInt64.ofNat p.1).Nodup ∧
    d.manager.roster.listeners.map (fun p => (p.1, p.2.name)) = [(1, "broken"), (3, "late")] ∧
    d.scene.attended.map (·.1) =
      [none, some "fickle", some "broken", some "last", none, some "fickle", some "broken",
        some "late"] := by
  intro start fickle steps past d
  obtain ⟨hemission, hcalled, -, -, hdistinct, hlisteners, hattended⟩ :=
    registered_listeners_called start rfl ({} : Store.Memory) steps
  have hwhole : ∀ emission, past.filterMap (Happening.called? emission) ≠ [] →
      ∃ before e after, past = before ++ .begins emission e :: after ∧
        present before = (past.filterMap (Happening.called? emission)).map (·.1) := by
    intro emission hne
    obtain ⟨e, hbegins⟩ := hcalled emission hne
    obtain ⟨before, after, hsplit⟩ := List.append_of_mem hbegins
    obtain ⟨-, hnone, hall⟩ := hemission before emission e after hsplit
    refine ⟨before, e, after, hsplit, ?_⟩
    rw [show past = _ from hsplit, List.filterMap_append, hnone, List.nil_append,
      List.filterMap_cons_none rfl, hall, List.map_map]
    exact (List.map_id _).symm
  obtain ⟨before, e, after, hsplit, hpresent⟩ :=
    hwhole 0 (List.isEmpty_eq_false_iff.1 (by decide +kernel))
  obtain ⟨before', e', after', hsplit', hpresent'⟩ :=
    hwhole 4 (List.isEmpty_eq_false_iff.1 (by decide +kernel))
  refine ⟨⟨before, e, after, hsplit, hpresent.trans (by decide +kernel)⟩,
    ⟨before', e', after', hsplit', hpresent'.trans (by decide +kernel)⟩,
    hdistinct (by decide +kernel), hlisteners.trans (by decide +kernel), ?_⟩
  rw [show d.scene.attended = _ from hattended]
  decide +kernel

end Guildkeep.Save.Desk
