import Guildkeep.Proofs.Save.Health
import Guildkeep.Proofs.Save.Hearing

/-!
# The Events Replay to the Listing

Whoever listens to a manager from the start on an empty store need never ask what is listed. A save
that is created is listed last, and one that is deleted or given up is listed no more: read in this
way, the events that were heard give the ids of the manifest, in their order. This holds after every
errand, whichever accesses of the store failed in between.

## Conventions

Only the clock has to be trusted: it never goes back. A listener counts as long as it is registered;
nobody else may register under its name.

What is told of a save is written down here word for word, type and payload, without the manager.

## Main results

* `relist`: what tidings do to the ids that are **listed**.
* `tidings_events`: what the manager tells of a save is what there **is to tell** of it.
* `Account.indexed`: the events of a request **do to the ids** what the request does to the
  manifest.
* `heard_events_replay_listing`: the events of **every run** replay to the manifest.
-/

namespace Guildkeep.Save

open Archive Game Store

/-! ### Replaying -/

/-- A text in the payload. -/
def textIn (t : Tidings) (key : String) : Option String :=
  match t.data.bind (Json.get? key) with
  | some (.string s) => some s
  | _ => none

/-- The ids that are **listed** after tidings: a save that was created is listed last, and one that
was deleted no more. -/
def relist (ids : List String) (t : Tidings) : List String :=
  match textIn t "id" with
  | none => ids
  | some id =>
    if t.type = "game.save.created" then ids ++ [id]
    else if t.type = "game.save.deleted" then ids.erase id
    else ids

/-- A save that is created is listed **last**. -/
theorem relist_created (ids : List String) (id : String) (title : Option String) :
    relist ids (Manager.created id title).tidings = ids ++ [id] := by
  have htext : textIn (Manager.created id title).tidings "id" = some id := rfl
  rw [relist, htext]
  exact if_pos rfl

/-- A save that is deleted is listed **no more**. -/
theorem relist_deleted (ids : List String) (id reason : String) :
    relist ids (Manager.deleted id reason).tidings = ids.erase id := by
  have htext : textIn (Manager.deleted id reason).tidings "id" = some id := rfl
  have hother : "game.save.deleted" ≠ "game.save.created" := by decide
  rw [relist, htext]
  exact (if_neg hother).trans (if_pos rfl)

/-- Tidings of anything else change **nothing**. -/
theorem relist_of_other {t : Tidings} (hcreated : t.type ≠ Event.Kind.saveCreated.type)
    (hdeleted : t.type ≠ Event.Kind.saveDeleted.type) (ids : List String) : relist ids t = ids := by
  rw [relist]
  split
  · rfl
  · exact (if_neg hcreated).trans (if_neg hdeleted)

/-- Events that do not tell of the listing change nothing. -/
theorem foldl_relist_of_silent {events : List Outline}
    (h : ∀ o ∈ events, tellsOfListing o = false) (ids : List String) :
    (events.map Outline.tidings).foldl relist ids = ids := by
  induction events with
  | nil => rfl
  | cons o events ih =>
    have ho := h o List.mem_cons_self
    rw [tellsOfListing, Bool.or_eq_false_iff, beq_eq_false_iff_ne, beq_eq_false_iff_ne] at ho
    rw [List.map_cons, List.foldl_cons, relist_of_other ho.1 ho.2]
    exact ih fun o' ho' => h o' (List.mem_cons_of_mem o ho')

/-- What is **no news** changes nothing. -/
theorem foldl_relist_news (tidings : List Tidings) (ids : List String) :
    (tidings.filter Tidings.isNews).foldl relist ids = tidings.foldl relist ids := by
  induction tidings generalizing ids with
  | nil => rfl
  | cons t tidings ih =>
    by_cases hnews : t.isNews = true
    · rw [List.filter_cons_of_pos hnews, List.foldl_cons, List.foldl_cons, ih]
    · have htype : t.type = Event.Kind.autoSaveDisabled.type := by
        simpa [Tidings.isNews] using hnews
      have hsame : relist ids t = ids := by
        refine relist_of_other ?_ ?_ ids
        all_goals
          rw [htype]
          decide
      rw [List.filter_cons_of_neg hnews, List.foldl_cons, hsame, ih]

/-- Entries that are given up **from the front** leave those behind them. -/
theorem foldl_relist_evicted (gone kept : List Entry) :
    ((gone.map fun e => Manager.deleted e.id "evicted").map Outline.tidings).foldl relist
      ((gone ++ kept).map (·.id)) = kept.map (·.id) := by
  induction gone with
  | nil => rfl
  | cons e gone ih =>
    rw [List.map_cons, List.map_cons, List.foldl_cons, relist_deleted, List.cons_append,
      List.map_cons, List.erase_cons_head]
    exact ih

/-- The events of a save **replay** it. -/
theorem foldl_relist_events (request : Request) (gone kept : List Entry) (id : String) :
    ((request.events gone id).map Outline.tidings).foldl relist ((gone ++ kept).map (·.id)) =
      kept.map (·.id) ++ [id] := by
  have hclosing : ∀ o ∈ request.closing id, tellsOfListing o = false := by
    cases request with
    | tick => exact List.forall_mem_singleton.2 rfl
    | setState | save | load | delete | list | enableAutoSave | disableAutoSave => nofun
  have hevents : (request.events gone id).map Outline.tidings =
      (gone.map fun e => Manager.deleted e.id "evicted").map Outline.tidings ++
        (Manager.created id request.title?).tidings ::
          (request.closing id).map Outline.tidings := by
    rw [Request.events, List.map_append, List.map_cons]
  rw [hevents, List.foldl_append, foldl_relist_evicted, List.foldl_cons, relist_created,
    foldl_relist_of_silent hclosing]

/-! ### What is told of a save -/

/-- What is told of a save that is **given up** for another one. -/
def tidingsOfEvicted (id : String) : Tidings where
  type := "game.save.deleted"
  data := some (.object [("id", .string id), ("reason", .string "evicted")])

/-- What is told of a save that is **made**, with its title, if it has one. -/
def tidingsOfCreated (id : String) (title : Option String) : Tidings where
  type := "game.save.created"
  data := some (.object [("id", .string id), ("title", match title with
    | some title => .string title
    | none => .null)])

/-- What is told at the end of a save that **nobody asked for**. -/
def tidingsOfCompleted (id : String) : Tidings where
  type := "game.autosave.completed"
  data := some (.object [("id", .string id)])

/-- Whether nobody asked for what a request saves. -/
def Request.isUnasked : Request → Bool
  | .tick => true
  | _ => false

/-- **All that there is to tell** of a save: of each entry that is given up for it, in their order,
of the save itself, and at the end, if nobody asked for it, that it was made. -/
def tidingsOfSave (request : Request) (gone : List Entry) (id : String) : List Tidings :=
  gone.map (fun e => tidingsOfEvicted e.id) ++
    [tidingsOfCreated id request.title?] ++
    if request.isUnasked then [tidingsOfCompleted id] else []

/-- What the manager tells of a save is what there **is to tell** of it. -/
theorem tidings_events (request : Request) (gone : List Entry) (id : String) :
    (request.events gone id).map Outline.tidings = tidingsOfSave request gone id := by
  have hevicted : (gone.map fun e => Manager.deleted e.id "evicted").map Outline.tidings =
      gone.map fun e => tidingsOfEvicted e.id := by
    rw [List.map_map]
    rfl
  have hcreated : (Manager.created id request.title?).tidings =
      tidingsOfCreated id request.title? := by
    cases h : request.title? <;> rfl
  have hclosing : (request.closing id).map Outline.tidings =
      if request.isUnasked then [tidingsOfCompleted id] else [] := by
    cases request <;> rfl
  rw [Request.events, tidingsOfSave, List.map_append, List.map_cons, hevicted, hcreated, hclosing,
    List.append_assoc, List.singleton_append]

/-- All of it is **news**. -/
theorem filter_isNews_tidingsOfSave (request : Request) (gone : List Entry) (id : String) :
    (tidingsOfSave request gone id).filter Tidings.isNews = tidingsOfSave request gone id := by
  refine List.filter_eq_self.2 fun t ht => ?_
  simp only [tidingsOfSave, List.mem_append, List.mem_map, List.mem_singleton] at ht
  rcases ht with (⟨e, -, rfl⟩ | rfl) | ht
  · rfl
  · rfl
  · split at ht
    · obtain rfl := List.mem_singleton.1 ht
      rfl
    · cases ht

/-! ### The listing -/

/-- The time **never goes back**. -/
def TimePasses (moments : Nat → Moment) : Prop :=
  ∀ i j, i ≤ j → (moments i).now.rank ≤ (moments j).now.rank

/-- The manifest lists saves of moments that have **passed**, in the order of their times. -/
structure Indexed (moments : Nat → Moment) (passed : Nat) (texts : Texts) (m : Manifest) :
    Prop where
  listed : listing texts = .ok m
  ordered : Manifest.Ordered m.entries
  reserved : Manifest.key ∉ m.ids
  past : ∀ e ∈ m.entries, ∃ i < passed, e.timestamp = (moments i).now

/-- In order of time a new entry is listed **behind** those that are not given up. -/
theorem Manifest.evictOver_push_of_ordered {m : Manifest} {e : Entry}
    (h : Ordered (m.entries ++ [e])) {limit : Nat} (hlimit : 1 ≤ limit) :
    ∃ gone kept, m.entries = gone ++ kept ∧
      (m.push e).evictOver limit = (gone, { m with entries := kept ++ [e] }) := by
  have hle : m.entries.length + 1 - limit ≤ m.entries.length := by omega
  refine ⟨m.entries.take (m.entries.length + 1 - limit),
    m.entries.drop (m.entries.length + 1 - limit),
    (List.take_append_drop ..).symm, ?_⟩
  simp only [evictOver, push, evict_of_ordered h, List.length_append, List.length_singleton,
    List.take_append_of_le_length hle, List.drop_append_of_le_length hle]

namespace Indexed

variable {moments : Nat → Moment} {passed passed' : Nat} {before after : Texts} {m : Manifest}

/-- A store with nothing in it is **indexed**. -/
theorem empty (moments : Nat → Moment) (passed : Nat) :
    Indexed moments passed (fun _ => none) {} :=
  ⟨rfl, List.Pairwise.nil, List.not_mem_nil, fun _ he => nomatch he⟩

/-- As time goes on an index **stays** one. -/
theorem later (h : Indexed moments passed before m) (hle : passed ≤ passed') :
    Indexed moments passed' before m :=
  { h with
    past := fun e he => by
      obtain ⟨i, hi, htime⟩ := h.past e he
      exact ⟨i, Nat.lt_of_lt_of_le hi hle, htime⟩ }

/-- What is listed depends on the text of one key. -/
theorem congr (h : Indexed moments passed before m)
    (hkey : after Manifest.key = before Manifest.key) : Indexed moments passed after m :=
  { h with listed := (listing_congr hkey).trans h.listed }

/-- Fewer entries in the same order. -/
theorem sublist (h : Indexed moments passed before m) {entries : List Entry}
    (hsub : entries.Sublist m.entries)
    (htext : after Manifest.key = some (Manifest.text { m with entries })) :
    Indexed moments passed after { m with entries } := by
  have hversion : m.version ≤ Manifest.currentVersion := version_le_of_listing h.listed
  refine ⟨listing_of_text htext hversion, List.Pairwise.sublist hsub h.ordered, ?_, ?_⟩
  · exact fun hmem => h.reserved ((hsub.map _).subset hmem)
  · exact fun e he => h.past e (hsub.subset he)

/-- A save that is **added** at a moment is listed behind those that stay. -/
theorem added (hclock : TimePasses moments) (h : Indexed moments passed before m) {e : Entry}
    (hfree : e.id ≠ Manifest.key) {i : Nat} (hi : passed ≤ i)
    (htime : e.timestamp = (moments i).now)
    {limit : Nat} (hlimit : 1 ≤ limit) {payload : String} {gone : List String}
    (hgone : gone ⊆ ((m.push e).evictOver limit).1.map (·.id)) :
    ∃ lost kept, m.entries = lost ++ kept ∧
      (m.push e).evictOver limit = (lost, { m with entries := kept ++ [e] }) ∧
      Indexed moments (i + 1)
        (addedTexts before e.id payload ((m.push e).evictOver limit).2 gone)
        { m with entries := kept ++ [e] } := by
  have hordered : Manifest.Ordered (m.entries ++ [e]) := by
    refine List.pairwise_append.2 ⟨h.ordered, List.pairwise_singleton .., ?_⟩
    intro old hold new hnew
    obtain ⟨j, hj, hold⟩ := h.past old hold
    rw [List.mem_singleton.1 hnew, hold, htime]
    exact hclock j i (by omega)
  have hversion : m.version ≤ Manifest.currentVersion := version_le_of_listing h.listed
  obtain ⟨lost, kept, hsplit, hevict⟩ := Manifest.evictOver_push_of_ordered hordered hlimit
  rw [hevict] at hgone ⊢
  have hkey : Manifest.key ∉ gone := by
    intro hmem
    refine h.reserved ?_
    rw [Manifest.ids, hsplit, List.map_append]
    exact List.mem_append_left _ (hgone hmem)
  have hsub : (kept ++ [e]).Sublist (m.entries ++ [e]) := by
    rw [hsplit, List.append_assoc]
    exact List.sublist_append_right ..
  refine ⟨lost, kept, hsplit, rfl, ?_, List.Pairwise.sublist hsub hordered, ?_, ?_⟩
  · exact listing_written hkey hversion
  · intro hmem
    have hmem : Manifest.key ∈ (m.entries ++ [e]).map (·.id) := (hsub.map _).subset hmem
    rw [List.map_append, List.mem_append] at hmem
    rcases hmem with hmem | hmem
    · exact h.reserved hmem
    · exact hfree (List.mem_singleton.1 hmem).symm
  · intro old hold
    rcases List.mem_append.1 (hsub.subset hold) with hold | hold
    · obtain ⟨j, hj, hold⟩ := h.past old hold
      exact ⟨j, by omega, hold⟩
    · exact ⟨i, Nat.lt_succ_self i, by rw [List.mem_singleton.1 hold, htime]⟩

end Indexed

/-! ### One request -/

section Account

variable {m : Manager} {ambient : Ambient} {before after : Texts} {request : Request}
  {answer : Answer} {events : List Outline} {manifest : Manifest}

/-- A save that is **made** tells of each entry that is given up for it, the oldest first, and then
of itself; it is listed behind those that stay. -/
theorem Account.saved (hclock : TimePasses ambient.moments)
    (h : Account m ambient before request answer events after)
    (hindex : Indexed ambient.moments ambient.passed before manifest) {id : String}
    (hsaved : answer.savedId? = some id) :
    ∃ gone kept, manifest.entries = gone ++ kept ∧ events = request.events gone id ∧
      Indexed ambient.moments (ambient.passed + 2) after
        { manifest with
          entries := kept ++ [⟨id, request.title?, ambient.next.2.next.1.now⟩] } := by
  cases h with
  | same unsaved => exact nomatch unsaved.symm.trans hsaved
  | orphan | unlisted | deleted => cases hsaved
  | @added _ _ manifest' _ _ _ _ saves decodes isEntry saved listed given_up =>
    obtain rfl : manifest = manifest' := Except.ok.inj (hindex.listed.symm.trans listed)
    obtain rfl := Option.some.inj (saved.symm.trans hsaved)
    subst isEntry
    obtain ⟨gone, kept, hsplit, hevict, hindex'⟩ := hindex.added hclock
      (Manager.saveId_ne_key ambient.next.1) (Nat.le_succ ambient.passed) rfl m.options.one_le_keep
      given_up
    refine ⟨gone, kept, hsplit, by rw [hevict], hindex'⟩

/-- The events of a request **replay** what it does to the manifest. -/
theorem Account.indexed (hclock : TimePasses ambient.moments)
    (h : Account m ambient before request answer events after)
    (hindex : Indexed ambient.moments ambient.passed before manifest) {passed : Nat}
    (hpassed : ambient.passed ≤ passed)
    (hsaves : (m.toSave? request).isSome = true → ambient.passed + 2 ≤ passed) :
    ∃ manifest', Indexed ambient.moments passed after manifest' ∧
      (events.map Outline.tidings).foldl relist manifest.ids = manifest'.ids := by
  have haccount := h
  cases h with
  | same unsaved silent =>
    exact ⟨manifest, hindex.later hpassed, foldl_relist_of_silent silent manifest.ids⟩
  | orphan =>
    refine ⟨manifest, (hindex.congr ?_).later hpassed, rfl⟩
    exact Function.update_of_ne (Manager.saveId_ne_key _).symm ..
  | added saves decodes isEntry saved listed given_up =>
    obtain ⟨gone, kept, hsplit, hevents, hindex'⟩ := haccount.saved hclock hindex saved
    refine ⟨_, hindex'.later (hsaves (by rw [saves]; rfl)), ?_⟩
    rw [hevents, Manifest.ids, hsplit, foldl_relist_events, Manifest.ids, List.map_append]
    rfl
  | @unlisted manifest' id gone free listed there given_up =>
    obtain rfl : manifest = manifest' := Except.ok.inj (hindex.listed.symm.trans listed)
    have hkey : Manifest.key ∉ gone := fun hmem => free (List.mem_singleton.1 (given_up hmem)).symm
    refine ⟨manifest.remove id, (hindex.sublist List.eraseP_sublist ?_).later hpassed, ?_⟩
    · rw [without, if_neg hkey, Function.update_self]
      rfl
    · rw [Manifest.ids_remove]
      exact relist_deleted manifest.ids id "deleted"
  | @deleted manifest' id free listed absent =>
    obtain rfl : manifest = manifest' := Except.ok.inj (hindex.listed.symm.trans listed)
    refine ⟨manifest, (hindex.congr (Function.update_of_ne free.symm ..)).later hpassed, ?_⟩
    refine (relist_deleted manifest.ids id "deleted").trans ?_
    exact List.erase_of_not_mem (Manifest.find?_eq_none_iff.1 absent)

end Account

/-! ### A listener that keeps up -/

/-- A listener **keeps up** with a store: as long as it is registered, what it has heard replays to
what is listed. -/
structure KeepsUp (name : String) (moments : Nat → Moment) (d : Desk) (texts : Texts)
    (manifest : Manifest) : Prop where
  supply : d.scene.ambient.moments = moments
  known : d.names.has name = true
  alone : d.namesakes name ≤ 1
  indexed : Indexed moments d.scene.ambient.passed texts manifest
  replay : d.namesakes name = 1 → (d.scene.news name).foldl relist [] = manifest.ids

namespace KeepsUp

variable {name : String} {moments : Nat → Moment} {d d' : Desk} {texts : Texts}
  {manifest : Manifest}

/-- Where **nothing** is heard and no text changes, it still does. -/
theorem hears (h : KeepsUp name moments d texts manifest) (hhears : d.Hears name [] d') :
    KeepsUp name moments d' texts manifest where
  supply := hhears.leads.moments.trans h.supply
  known := hhears.known h.known
  alone := Nat.le_trans (hhears.fewer h.known) h.alone
  indexed := h.indexed.later hhears.leads.passed
  replay hone := by
    have hfewer := hhears.fewer h.known
    have halone := h.alone
    rw [hhears.news, List.append_nil]
    exact h.replay (by omega)

variable {σ : Type} [Store σ] [Viewed σ] {store : σ}

omit [Viewed σ] in
/-- Of a request a listener hears the **events**. -/
theorem news_ask (h : KeepsUp name moments d texts manifest) (store : σ) (request : Request)
    (hone : (d.ask store request).2.2.namesakes name = 1) :
    (d.ask store request).2.2.scene.news name = d.scene.news name ++
      ((d.manager.answer store d.scene.ambient request).events.map Outline.tidings).filter
        Tidings.isNews := by
  have hanswered := h.hears (d.hears_answered name store request)
  obtain ⟨more, hhears, hall⟩ := Desk.hears_emitAll name request.waits
    (d.manager.answer store d.scene.ambient request).events (d.answered store request)
  rw [← hall hanswered.known hanswered.alone hone]
  exact hhears.news

/-- A listener keeps up with **every request**. -/
theorem ask (hclock : TimePasses moments) (h : KeepsUp name moments d (Viewed.texts store) manifest)
    (request : Request) :
    ∃ manifest', KeepsUp name moments (d.ask store request).2.2
      (Viewed.texts (d.ask store request).2.1) manifest' := by
  obtain rfl := h.supply
  have hanswered := d.hears_answered name store request
  obtain ⟨more, htold, -⟩ := Desk.hears_emitAll name request.waits
    (d.manager.answer store d.scene.ambient request).events (d.answered store request)
  have hhears := hanswered.trans htold
  have hsaves : (d.manager.toSave? request).isSome = true →
      d.scene.ambient.passed + 2 ≤ (d.ask store request).2.2.scene.ambient.passed := by
    intro hsaves
    refine Nat.le_trans ?_ htold.leads.passed
    change _ ≤ (d.manager.answer store d.scene.ambient request).ambient.passed
    rw [Manager.ambient_answer, if_pos hsaves]
    exact Nat.le_refl _
  obtain ⟨manifest', hindex, hreplay⟩ := (d.manager.answer_account store d.scene.ambient
    request).indexed hclock h.indexed hhears.leads.passed hsaves
  have hfewer := hhears.fewer h.known
  refine ⟨manifest', hhears.leads.moments, hhears.known h.known, Nat.le_trans hfewer h.alone,
    hindex, fun hone => ?_⟩
  have hbefore : d.namesakes name = 1 := Nat.le_antisymm h.alone (hone ▸ hfewer)
  rw [h.news_ask store request hone, List.foldl_append, foldl_relist_news, h.replay hbefore]
  exact hreplay

end KeepsUp

/-! ### Every run -/

/-- An **errand**: something is asked of a manager, a listener comes or goes, or an event goes to
the bus, one that the manager has queued or one of somebody else. -/
inductive Errand where
  | ask (request : Request)
  | listen (l : Listener)
  | unlisten (name : String)
  | forward
  | announce (o : Outline)

namespace Errand

variable {σ : Type} [Store σ]

/-- The desk and the store after an errand. -/
def run (place : Desk × σ) : Errand → Desk × σ
  | ask request => ((place.1.ask place.2 request).2.2, (place.1.ask place.2 request).2.1)
  | listen l => (place.1.listen l, place.2)
  | unlisten name => ((place.1.unlisten name).2, place.2)
  | forward => (place.1.forward, place.2)
  | announce o => (place.1.announce o, place.2)

/-- The desk and the store after errands, one after another. -/
def runAll (place : Desk × σ) (errands : List Errand) : Desk × σ :=
  errands.foldl run place

end Errand

namespace KeepsUp

variable {σ : Type} [Store σ] [Viewed σ] {name : String} {moments : Nat → Moment}
  {manifest : Manifest}

/-- A listener keeps up with **every errand**, if nobody registers under its name. -/
theorem run (place : Desk × σ) (hclock : TimePasses moments)
    (h : KeepsUp name moments place.1 (texts place.2) manifest) (errand : Errand)
    (hother : ∀ l, errand = .listen l → l.name ≠ name) :
    ∃ manifest',
      KeepsUp name moments (errand.run place).1 (texts (errand.run place).2) manifest' := by
  cases errand with
  | ask request =>
    rw [Errand.run]
    exact h.ask hclock request
  | listen l =>
    rw [Errand.run]
    exact ⟨manifest, h.hears (place.1.hears_listen name (hother l rfl))⟩
  | unlisten other =>
    rw [Errand.run]
    exact ⟨manifest, h.hears (place.1.hears_unlisten name other)⟩
  | forward =>
    rw [Errand.run]
    exact ⟨manifest, h.hears (place.1.hears_forward name)⟩
  | announce o =>
    rw [Errand.run]
    exact ⟨manifest, h.hears (place.1.hears_announce name o)⟩

/-- Through all errands a listener **keeps up** with the manifest. -/
theorem runAll (place : Desk × σ) (hclock : TimePasses moments) (errands : List Errand)
    (h : KeepsUp name moments place.1 (texts place.2) manifest)
    (hother : ∀ l, .listen l ∈ errands → l.name ≠ name) :
    ∃ manifest', KeepsUp name moments (Errand.runAll place errands).1
      (texts (Errand.runAll place errands).2) manifest' := by
  induction errands generalizing place manifest with
  | nil => exact ⟨manifest, h⟩
  | cons errand errands ih =>
    obtain ⟨manifest', h'⟩ := run place hclock h errand fun l hl =>
      hother l (List.mem_cons.2 (.inl hl.symm))
    exact ih _ h' fun l hl => hother l (List.mem_cons_of_mem errand hl)

/-- A listener keeps up with an **empty** store from its registration on. -/
theorem start (options : Options) (forwards : Bool) {scene : Scene} {earlier : List Listener}
    {l : Listener} (hearlier : ∀ other ∈ earlier, other.name ≠ l.name)
    (hquiet : scene.heardBy l.name = []) :
    KeepsUp l.name scene.ambient.moments
      ((earlier ++ [l]).foldl Desk.listen { manager := { options, forwards }, scene })
      (fun _ => none) {} := by
  have hscene := Desk.scene_foldl_listen (earlier ++ [l])
    { manager := { options, forwards }, scene }
  have hlisteners := Desk.listeners_foldl_listen (earlier ++ [l])
    { manager := { options, forwards }, scene }
  constructor
  · rw [hscene]
  · rw [List.foldl_append, List.foldl_cons, List.foldl_nil, Desk.listen, Table.has, Table.get?_put,
      if_pos rfl]
    rfl
  · have hnone : earlier.countP (·.name = l.name) = 0 := by
      rw [List.countP_eq_zero]
      exact fun other hmem => by simpa using hearlier other hmem
    rw [Desk.namesakes_eq, hlisteners]
    simp [hnone]
  · exact .empty _ _
  · intro _
    rw [hscene, Scene.news, hquiet]
    rfl

end KeepsUp

/-- Whether a listener with a name is **registered**. -/
def Desk.hasListener (d : Desk) (name : String) : Bool :=
  d.manager.roster.listeners.any (·.2.name = name)

/-- A listener that is registered and **alone** under its name. -/
theorem KeepsUp.namesakes_eq_one {name : String} {moments : Nat → Moment} {d : Desk} {texts : Texts}
    {manifest : Manifest} (h : KeepsUp name moments d texts manifest)
    (hregistered : d.hasListener name = true) : d.namesakes name = 1 :=
  Nat.le_antisymm h.alone (List.countP_pos_iff.2 (List.any_eq_true.1 hregistered))

/-- **The events replay to the listing.** A manager with any options is opened on an empty store
behind any gate, whatever goes on on its bus, and listeners register; then come any errands. If the
time never goes back, then after them the manifest can be read, and the events that one of these
listeners has heard, if it is still registered and nobody else registered under its name, replay to
the ids of the manifest in their order. Of a request it hears the events, once each and in order.
And of a save that is made there is told, and it hears, that each entry was evicted that is given up
for it, the oldest first, then that it was created, with its id and its title, and if nobody asked
for it that it was completed. -/
theorem heard_events_replay_listing (options : Options) (forwards : Bool) (scene : Scene)
    (hclock : TimePasses scene.ambient.moments) (store : Gated Memory)
    (hempty : texts store = fun _ => none) (earlier : List Listener) (l : Listener)
    (hearlier : ∀ other ∈ earlier, other.name ≠ l.name) (hquiet : scene.heardBy l.name = [])
    (errands : List Errand) (hother : ∀ other, .listen other ∈ errands → other.name ≠ l.name) :
    let start : Desk :=
      (earlier ++ [l]).foldl Desk.listen { manager := { options, forwards }, scene }
    let desk := (Errand.runAll (start, store) errands).1
    let store := (Errand.runAll (start, store) errands).2
    ∃ manifest, listing (texts store) = .ok manifest ∧ Manifest.Ordered manifest.entries ∧
      (desk.hasListener l.name = true →
        ((desk.scene.heardBy l.name).map Event.tidings).foldl relist [] = manifest.ids) ∧
      ∀ request,
        ((desk.ask store request).2.2.hasListener l.name = true →
          (desk.ask store request).2.2.scene.news l.name = desk.scene.news l.name ++
            ((desk.manager.answer store desk.scene.ambient request).events.map
              Outline.tidings).filter Tidings.isNews) ∧
        ∀ id, (desk.ask store request).1.savedId? = some id →
          ∃ gone kept time, manifest.entries = gone ++ kept ∧
            listing (texts (desk.ask store request).2.1) =
              .ok { manifest with entries := kept ++ [⟨id, request.title?, time⟩] } ∧
            (desk.manager.answer store desk.scene.ambient request).events.map Outline.tidings =
              tidingsOfSave request gone id ∧
            ((desk.ask store request).2.2.hasListener l.name = true →
              (desk.ask store request).2.2.scene.news l.name =
                desk.scene.news l.name ++ tidingsOfSave request gone id) := by
  intro start desk store'
  have hstart := KeepsUp.start options forwards hearlier hquiet
  rw [← hempty] at hstart
  obtain ⟨manifest, h⟩ := KeepsUp.runAll (start, store) hclock errands hstart hother
  refine ⟨manifest, h.indexed.listed, h.indexed.ordered, ?_, ?_⟩
  · intro hregistered
    rw [← foldl_relist_news]
    exact h.replay (h.namesakes_eq_one hregistered)
  intro request
  have hnews (hregistered : (desk.ask store' request).2.2.hasListener l.name = true) :
      (desk.ask store' request).2.2.scene.news l.name = desk.scene.news l.name ++
        ((desk.manager.answer store' desk.scene.ambient request).events.map
          Outline.tidings).filter Tidings.isNews := by
    obtain ⟨manifest', h'⟩ := h.ask hclock request
    exact h.news_ask store' request (h'.namesakes_eq_one hregistered)
  refine ⟨hnews, fun id hsaved => ?_⟩
  have hclock' : TimePasses desk.scene.ambient.moments := h.supply ▸ hclock
  obtain ⟨gone, kept, hsplit, hevents, hindex⟩ :=
    (desk.manager.answer_account store' desk.scene.ambient request).saved hclock'
      (h.supply ▸ h.indexed) hsaved
  have htold : (desk.manager.answer store' desk.scene.ambient request).events.map Outline.tidings =
      tidingsOfSave request gone id := by
    rw [hevents, tidings_events]
  refine ⟨gone, kept, _, hsplit, hindex.listed, htold, fun hregistered => ?_⟩
  rw [hnews hregistered, htold, filter_isNews_tidingsOfSave]

/-- A save, then one that nobody asked for while only one is kept, behind a gate that is closed to
deletions and with a listener that switches autosave off when such a save is complete. -/
theorem heard_events_replay_listing_two_saves :
    let options : Options := { maxSaves := 1 }
    let scene : Scene := { ambient := { moments := fun i => ⟨.epoch, Text.nat i⟩ } }
    let store : Gated Memory := { inner := {}, outage := .on .delete none }
    let switch : Listener :=
      { name := "switch"
        reactions := fun o =>
          if o.event.type = "game.autosave.completed" then [.disablesAutoSave] else [] }
    let earlier : List Listener := [switch]
    let l : Listener := .always "log"
    let s : Snapshot := ⟨.opening "" 100 .epoch, {}⟩
    let errands : List Errand :=
      [.ask (.setState s), .ask (.save (some "first")), .ask .enableAutoSave]
    let start : Desk := (earlier ++ [l]).foldl Desk.listen
      { manager := { options, forwards := false }, scene }
    let desk := (Errand.runAll (start, store) errands).1
    let store := (Errand.runAll (start, store) errands).2
    let ticked := desk.ask store .tick
    desk.hasListener l.name = true ∧ ticked.2.2.manager.autoSave = false ∧
      (∃ manifest, listing (texts store) = .ok manifest ∧
        ((desk.scene.heardBy l.name).map Event.tidings).foldl relist [] = manifest.ids ∧
        manifest.ids = ["guild-manager-game-0-1"]) ∧
      ticked.1.savedId? = some "guild-manager-game-0-5" ∧
      ticked.2.2.scene.news l.name = desk.scene.news l.name ++
        [⟨"game.save.deleted", some (.object [("id", .string "guild-manager-game-0-1"),
            ("reason", .string "evicted")])⟩,
          ⟨"game.save.created", some (.object [("id", .string "guild-manager-game-0-5"),
            ("title", .null)])⟩,
          ⟨"game.autosave.completed",
            some (.object [("id", .string "guild-manager-game-0-5")])⟩] := by
  intro options scene store switch earlier l s errands start desk store' ticked
  obtain ⟨hregistered, hticked, hoff, hsaved, hheard, hone⟩ : desk.hasListener l.name = true ∧
      ticked.2.2.hasListener l.name = true ∧ ticked.2.2.manager.autoSave = false ∧
      ticked.1.savedId? = some "guild-manager-game-0-5" ∧
      ((desk.scene.heardBy l.name).map Event.tidings).foldl relist [] =
        ["guild-manager-game-0-1"] ∧
      ((listing (texts ticked.2.1)).toOption.map fun m => m.entries.length) = some 1 := by
    decide +kernel
  obtain ⟨manifest, hlisting, -, hreplay, hask⟩ := heard_events_replay_listing options false scene
    (fun _ _ _ => Int.le_refl _) store rfl earlier l (by decide) rfl errands (by simp [errands])
  -- The run is the same one by its name; it must not be computed again.
  replace hlisting : listing (texts store') = .ok manifest := by with_reducible exact hlisting
  replace hreplay : ((desk.scene.heardBy l.name).map Event.tidings).foldl relist [] =
      manifest.ids := by with_reducible exact hreplay hregistered
  obtain ⟨gone, kept, time, hsplit, hafter, -, htold⟩ := by
    with_reducible exact (hask .tick).2 _ hsaved
  obtain ⟨entry, hafter⟩ : ∃ entry, listing (texts ticked.2.1) =
      .ok { manifest with entries := kept ++ [entry] } := by with_reducible exact ⟨_, hafter⟩
  replace htold : ticked.2.2.scene.news l.name = desk.scene.news l.name ++
      tidingsOfSave .tick gone "guild-manager-game-0-5" := by with_reducible exact htold hticked
  clear_value ticked desk store'
  have hids : manifest.ids = ["guild-manager-game-0-1"] := hreplay.symm.trans hheard
  have hkept : kept = [] := by
    rw [hafter] at hone
    simpa [Except.toOption] using hone
  have hgone : gone.map (·.id) = ["guild-manager-game-0-1"] := by
    rw [← hids, Manifest.ids, hsplit, hkept, List.append_nil]
  obtain ⟨e, rfl, he⟩ := List.map_eq_singleton_iff.1 hgone
  refine ⟨hregistered, hoff, ⟨manifest, hlisting, hreplay, hids⟩, hsaved, ?_⟩
  rw [htold, tidingsOfSave, List.map_singleton, he]
  rfl

end Guildkeep.Save
