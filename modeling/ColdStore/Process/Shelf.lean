import ColdStore.Process.Trace

/-! Places that name stored objects, and threads that use the names they have looked up. -/

namespace Process

variable {P I : Type}

/-- Places that name objects, the objects that are stored, and the names that were given so far. -/
structure Shelf (P I : Type) where
  named : P → Option I
  stored : I → Prop
  issued : I → Prop

/-- What a call does with a shelf. -/
inductive ShelfAction (P I : Type) where
  /-- All places were looked at. -/
  | looked (names : P → Option I)
  /-- An object was stored under a new name. -/
  | created (id : I)
  /-- A place was given a name, in place of the one it had. -/
  | entered (place : P) (id : I) (previous : Option I)
  /-- A place has lost the name that it had. -/
  | taken (place : P) (id : I)
  /-- A place has lost a name, unless it had another one. -/
  | settled (place : P) (id : I)
  /-- An object was deleted. -/
  | destroyed (id : I)
  | nothing

/-- What an action finds and leaves where it is done. -/
def ShelfAction.Effect (before after : Shelf P I) : ShelfAction P I → Prop
  | .looked names => names = before.named
  | .created id => ¬ before.issued id ∧ after.issued id ∧ after.stored id
  | .entered place id previous => previous = before.named place ∧ after.named place = some id
  | .taken place id => before.named place = some id ∧ after.named place ≠ some id
  | .settled place id => after.named place ≠ some id
  | .destroyed _ | .nothing => True

/-- What a call leaves on a shelf, by what it does. -/
structure Shelf.Does (before after : Shelf P I) (action : ShelfAction P I) : Prop where
  issued : ∀ id, before.issued id → after.issued id
  stored : ∀ id, before.issued id → before.stored id → after.stored id ∨ action = .destroyed id
  /-- No place has a name that it did not have or was not given. -/
  named : ∀ place id, after.named place = some id →
    before.named place = some id ∨ ∃ previous, action = .entered place id previous
  effect : action.Effect before after

/-- What is known of an action is known of its effect. -/
theorem Shelf.Does.effect_of {before after : Shelf P I} {action same : ShelfAction P I}
    (does : before.Does after action) (is : action = same) : same.Effect before after :=
  is ▸ does.effect

/-- What a thread has stored and not yet entered. -/
def ShelfAction.createMark : ShelfAction P I → Option (Option I)
  | .created id => some (some id)
  | .entered _ _ _ => some none
  | _ => none

/-- What a thread has deleted and not yet taken from its place. -/
def ShelfAction.oweMark : ShelfAction P I → Option (Option I)
  | .destroyed id => some (some id)
  | .settled _ _ => some none
  | _ => none

section

variable {C : Type} {R : C → Type} (act : Exchange C R → ShelfAction P I)
  (past : List (Exchange C R))

/-- A name was seen at a place. -/
def Saw (place : P) (id : I) : Prop :=
  ∃ exchange ∈ past, ∃ names, act exchange = .looked names ∧ names place = some id

/-- A place has lost this name. -/
def Gone (id : I) : Prop :=
  ∃ exchange ∈ past, (∃ place, act exchange = .taken place id) ∨
    ∃ place other, act exchange = .entered place other (some id)

/-- The object that was stored last, unless it was entered. -/
def fresh : Option I := latest (fun exchange => (act exchange).createMark) none past

/-- The object that was deleted last, unless it was taken from its place since. -/
def owed : Option I := latest (fun exchange => (act exchange).oweMark) none past

/-- What was deleted last is in no place. -/
def Clear : Prop := ∀ id, owed act past = some id → Gone act past id

/-- What a thread may do after what it has done. -/
def MayDo : ShelfAction P I → Prop
  -- Only what was just stored is entered.
  | .entered _ id _ => fresh act past = some id
  -- Only names that were seen or taken are deleted, one after the other.
  | .destroyed id => Clear act past ∧ ((∃ place, Saw act past place id) ∨ Gone act past id)
  -- What was deleted is taken from the place it was seen in.
  | .settled place id => Saw act past place id ∧ owed act past = some id
  | _ => True

variable {act} {past later : List (Exchange C R)} {place : P} {id : I}

/-- What was seen stays seen as a history grows. -/
theorem Saw.mono (saw : Saw act past place id) (longer : past ⊆ later) :
    Saw act later place id := by
  obtain ⟨exchange, mem, shown⟩ := saw
  exact ⟨exchange, longer mem, shown⟩

/-- What was lost stays lost as a history grows. -/
theorem Gone.mono (gone : Gone act past id) (longer : past ⊆ later) : Gone act later id := by
  obtain ⟨exchange, mem, lost⟩ := gone
  exact ⟨exchange, longer mem, lost⟩

/-- What was seen by now was seen before, or by the last exchange. -/
theorem saw_concat {exchange : Exchange C R} (saw : Saw act (past ++ [exchange]) place id) :
    Saw act past place id ∨ ∃ names, act exchange = .looked names ∧ names place = some id := by
  obtain ⟨other, mem, shown⟩ := saw
  rcases List.mem_append.mp mem with old | new
  · exact .inl ⟨other, old, shown⟩
  · exact .inr (List.mem_singleton.mp new ▸ shown)

/-- What was lost by now was lost before, or by the last exchange. -/
theorem gone_concat {exchange : Exchange C R} (gone : Gone act (past ++ [exchange]) id) :
    Gone act past id ∨ (∃ place, act exchange = .taken place id) ∨
      ∃ place other, act exchange = .entered place other (some id) := by
  obtain ⟨other, mem, lost⟩ := gone
  rcases List.mem_append.mp mem with old | new
  · exact .inl ⟨other, old, lost⟩
  · exact .inr (List.mem_singleton.mp new ▸ lost)

/-- The last exchange creates, enters, or leaves what was created as it is. -/
theorem fresh_concat (exchange : Exchange C R) :
    fresh act (past ++ [exchange]) = (act exchange).createMark.getD (fresh act past) :=
  latest_concat _ _ _ _

/-- The last exchange deletes, settles, or leaves what is owed as it is. -/
theorem owed_concat (exchange : Exchange C R) :
    owed act (past ++ [exchange]) = (act exchange).oweMark.getD (owed act past) :=
  latest_concat _ _ _ _

/-! What holds however the threads interleave. -/

variable {ι : Type}

/-- Everything that was called and answered. -/
def exchanges (trace : Trace C R ι) : List (Exchange C R) := trace.map Entry.exchange

/-- A thread has exchanged nothing that was not exchanged at all. -/
theorem ownPart_subset (spot : Nat) (trace : Trace C R ι) :
    ownPart spot trace ⊆ exchanges trace := by
  intro exchange mem
  obtain ⟨entry, recorded, _, rfl⟩ := (mem_ownPart _ _).mp mem
  exact List.mem_map_of_mem recorded

variable (act)

/-- An object that only the thread at a position knows of. -/
structure Unshared (trace : Trace C R ι) (shelf : Shelf P I) (spot : Nat) (id : I) : Prop where
  issued : shelf.issued id
  stored : shelf.stored id
  unnamed : ∀ place, shelf.named place ≠ some id
  unseen : ∀ place, ¬ Saw act (exchanges trace) place id
  ungone : ¬ Gone act (exchanges trace) id
  alone : ∀ other, fresh act (ownPart other trace) = some id → other = spot

/-- Names lead to stored objects, but for those whose deletion some thread still has to finish. -/
structure ShelfAgrees (trace : Trace C R ι) (shelf : Shelf P I) : Prop where
  known : ∀ place id, shelf.named place = some id → shelf.issued id
  apart : ∀ place other id, shelf.named place = some id → shelf.named other = some id →
    place = other
  seen : ∀ place id, Saw act (exchanges trace) place id →
    shelf.issued id ∧ ∀ other, shelf.named other = some id → other = place
  gone : ∀ id, Gone act (exchanges trace) id →
    shelf.issued id ∧ ∀ place, shelf.named place ≠ some id
  unshared : ∀ spot id, fresh act (ownPart spot trace) = some id → Unshared act trace shelf spot id
  present : ∀ place id, shelf.named place = some id →
    shelf.stored id ∨ ∃ spot, owed act (ownPart spot trace) = some id

variable {act}

/-- Before anything is called, names lead to stored objects. -/
theorem ShelfAgrees.nil {shelf : Shelf P I}
    (known : ∀ place id, shelf.named place = some id → shelf.issued id)
    (apart : ∀ place other id, shelf.named place = some id → shelf.named other = some id →
      place = other) (present : ∀ place id, shelf.named place = some id → shelf.stored id) :
    ShelfAgrees act ([] : Trace C R ι) shelf where
  known := known
  apart := apart
  -- Nothing has been seen, taken or created in an empty trace.
  seen place id saw := by
    obtain ⟨_, absurdity, _⟩ := saw
    cases absurdity
  gone id lost := by
    obtain ⟨_, absurdity, _⟩ := lost
    cases absurdity
  unshared spot id made := by cases made
  present place id named := .inl (present place id named)

/-- Once no thread has a deletion to finish, names lead to stored objects. -/
theorem ShelfAgrees.settled {trace : Trace C R ι} {shelf : Shelf P I}
    (agrees : ShelfAgrees act trace shelf) (clear : ∀ spot, Clear act (ownPart spot trace))
    (named : shelf.named place = some id) : shelf.stored id := by
  rcases agrees.present place id named with stored | ⟨spot, owes⟩
  · exact stored
  · have gone := (clear spot id owes).mono (ownPart_subset spot trace)
    exact absurd named ((agrees.gone id gone).2 place)

end

section

variable {C : Type} {R : C → Type} {ι : Type} {act : Exchange C R → ShelfAction P I}
  {trace : Trace C R ι} {before after : Shelf P I} {entry : Entry C R ι}

/-- One more entry is one more exchange. -/
theorem exchanges_concat (trace : Trace C R ι) (entry : Entry C R ι) :
    exchanges (trace ++ [entry]) = exchanges trace ++ [entry.exchange] := by
  simp [exchanges]

variable {id : I}

variable (agrees : ShelfAgrees act trace before)

include agrees

/-- A new object is known to the thread that has stored it only. -/
theorem ShelfAgrees.created (does : before.Does after (act entry.exchange))
    (creates : act entry.exchange = .created id) :
    Unshared act (trace ++ [entry]) after entry.spot id := by
  -- Whatever named, showed or lost an identifier had one that was issued, and this one was not.
  obtain ⟨new, issued, stored⟩ := does.effect_of creates
  refine ⟨issued, stored, fun place named => ?_, fun place saw => ?_, fun gone => ?_,
    fun other made => ?_⟩
  · rcases does.named place id named with old | ⟨_, enters⟩
    · exact new (agrees.known place id old)
    · cases creates.symm.trans enters
  · rw [exchanges_concat] at saw
    rcases saw_concat saw with old | ⟨_, looks, _⟩
    · exact new (agrees.seen place id old).1
    · cases creates.symm.trans looks
  · rw [exchanges_concat] at gone
    rcases gone_concat gone with old | ⟨_, takes⟩ | ⟨_, _, enters⟩
    · exact new (agrees.gone id old).1
    · cases creates.symm.trans takes
    · cases creates.symm.trans enters
  · by_cases own : entry.spot = other
    · exact own.symm
    · rw [ownPart_concat_ne _ _ own] at made
      exact absurd (agrees.unshared other id made).issued new

variable (may : MayDo act (ownPart entry.spot trace) (act entry.exchange))

include may

/-- What a thread enters was known to no other thread. -/
theorem ShelfAgrees.unentered {place : P} {previous : Option I}
    (enters : act entry.exchange = .entered place id previous) :
    Unshared act trace before entry.spot id := by
  rw [enters] at may
  exact agrees.unshared entry.spot id may

omit agrees in
/-- An unshared object stays unshared, unless its own thread goes on with it. -/
theorem Unshared.step {spot : Nat} (unshared : Unshared act trace before spot id)
    (does : before.Does after (act entry.exchange))
    (kept : entry.spot = spot → (act entry.exchange).createMark = none) :
    Unshared act (trace ++ [entry]) after spot id where
  issued := does.issued id unshared.issued
  stored := by
    rcases does.stored id unshared.issued unshared.stored with stored | destroys
    · exact stored
    · -- Nobody else has a name for it to delete it by.
      rw [destroys] at may
      rcases may.2 with ⟨place, saw⟩ | gone
      · exact absurd (saw.mono (ownPart_subset _ trace)) (unshared.unseen place)
      · exact absurd (gone.mono (ownPart_subset _ trace)) unshared.ungone
  unnamed place named := by
    rcases does.named place id named with old | ⟨previous, enters⟩
    · exact unshared.unnamed place old
    · have same := unshared.alone entry.spot (by rw [enters] at may; exact may)
      have marked := kept same
      rw [enters] at marked
      cases marked
  unseen place saw := by
    rw [exchanges_concat] at saw
    rcases saw_concat saw with old | ⟨names, looks, shown⟩
    · exact unshared.unseen place old
    · rw [does.effect_of looks] at shown
      exact unshared.unnamed place shown
  ungone gone := by
    rw [exchanges_concat] at gone
    rcases gone_concat gone with old | ⟨place, takes⟩ | ⟨place, other, enters⟩
    · exact unshared.ungone old
    · exact unshared.unnamed place (does.effect_of takes).1
    · exact unshared.unnamed place (does.effect_of enters).1.symm
  alone other made := by
    by_cases own : entry.spot = other
    · subst own
      rw [ownPart_concat_self, fresh_concat] at made
      cases action : act entry.exchange with
      | created new =>
        rw [action] at made
        cases made
        exact absurd unshared.issued (does.effect_of action).1
      | entered => rw [action] at made; cases made
      | _ => rw [action] at made; exact unshared.alone entry.spot made
    · rw [ownPart_concat_ne _ _ own] at made
      exact unshared.alone other made

variable (does : before.Does after (act entry.exchange))

include does

/-- A name that was seen is still in no other place after one more action. -/
theorem ShelfAgrees.seen_step {place : P} (saw : Saw act (exchanges (trace ++ [entry])) place id) :
    after.issued id ∧ ∀ other, after.named other = some id → other = place := by
  rw [exchanges_concat] at saw
  -- The place was seen earlier, or by this very look.
  rcases saw_concat saw with old | ⟨names, looks, shown⟩
  · obtain ⟨issued, only⟩ := agrees.seen place id old
    refine ⟨does.issued id issued, fun other named => ?_⟩
    rcases does.named other id named with was | ⟨_, enters⟩
    · exact only other was
    -- An identifier is entered by the one who made it, before anyone else has seen it.
    · exact absurd old ((agrees.unentered may enters).unseen place)
  · rw [does.effect_of looks] at shown
    refine ⟨does.issued id (agrees.known place id shown), fun other named => ?_⟩
    rcases does.named other id named with was | ⟨_, enters⟩
    · exact agrees.apart other place id was shown
    · cases looks.symm.trans enters

/-- A name that was lost is still in no place after one more action. -/
theorem ShelfAgrees.gone_step (gone : Gone act (exchanges (trace ++ [entry])) id) :
    after.issued id ∧ ∀ place, after.named place ≠ some id := by
  rw [exchanges_concat] at gone
  rcases gone_concat gone with old | ⟨place, takes⟩ | ⟨place, other, enters⟩
  · obtain ⟨issued, unnamed⟩ := agrees.gone id old
    refine ⟨does.issued id issued, fun place named => ?_⟩
    rcases does.named place id named with was | ⟨_, enters⟩
    · exact unnamed place was
    · exact (agrees.unentered may enters).ungone old
  · obtain ⟨was, lost⟩ := does.effect_of takes
    refine ⟨does.issued id (agrees.known place id was), fun elsewhere named => ?_⟩
    rcases does.named elsewhere id named with there | ⟨_, enters⟩
    · exact lost (agrees.apart elsewhere place id there was ▸ named)
    · cases takes.symm.trans enters
  · obtain ⟨was, now⟩ := does.effect_of enters
    have ne : id ≠ other := by
      rintro rfl
      exact (agrees.unentered may enters).unnamed place was.symm
    refine ⟨does.issued id (agrees.known place id was.symm), fun elsewhere named => ?_⟩
    rcases does.named elsewhere id named with there | ⟨_, again⟩
    · -- The name had one place, and this place has another name now.
      have same := agrees.apart elsewhere place id there was.symm
      rw [same, now, Option.some.injEq] at named
      exact ne named.symm
    · cases enters.symm.trans again
      exact ne rfl

/-- A name leads to a stored object after one more action, or some thread owes its deletion. -/
theorem ShelfAgrees.present_step {place : P} (named : after.named place = some id) :
    after.stored id ∨ ∃ spot, owed act (ownPart spot (trace ++ [entry])) = some id := by
  rcases does.named place id named with was | ⟨previous, enters⟩
  · rcases agrees.present place id was with stored | ⟨spot, owes⟩
    · rcases does.stored id (agrees.known place id was) stored with still | destroys
      · exact .inl still
      · -- Whoever deletes the object owes that its place is cleared.
        exact .inr ⟨entry.spot, by rw [ownPart_concat_self, owed_concat, destroys]; rfl⟩
    · refine .inr ⟨spot, ?_⟩
      by_cases own : entry.spot = spot
      · subst own
        rw [ownPart_concat_self, owed_concat]
        cases action : act entry.exchange with
        | destroyed other =>
          rw [action] at may
          have gone := (may.1 id owes).mono (ownPart_subset _ trace)
          exact absurd was ((agrees.gone id gone).2 place)
        | settled other settles =>
          -- The place that is cleared is the one that had the name.
          rw [action] at may
          obtain rfl := Option.some.inj (owes.symm.trans may.2)
          have only := (agrees.seen other id (may.1.mono (ownPart_subset _ trace))).2 place was
          exact absurd (only ▸ named) (does.effect_of action)
        | _ => exact owes
      · rw [ownPart_concat_ne _ _ own]
        exact owes
  · have unshared := agrees.unentered may enters
    rcases does.stored id unshared.issued unshared.stored with still | destroys
    · exact .inl still
    · cases enters.symm.trans destroys

/-- What a thread may do keeps the names in agreement with what is stored. -/
theorem ShelfAgrees.step : ShelfAgrees act (trace ++ [entry]) after where
  known place id named := by
    rcases does.named place id named with was | ⟨_, enters⟩
    · exact does.issued id (agrees.known place id was)
    · exact does.issued id (agrees.unentered may enters).issued
  apart place other id named again := by
    rcases does.named place id named with was | ⟨_, enters⟩
    · rcases does.named other id again with also | ⟨_, enters⟩
      · exact agrees.apart place other id was also
      · exact absurd was ((agrees.unentered may enters).unnamed place)
    · rcases does.named other id again with also | ⟨_, enters'⟩
      · exact absurd also ((agrees.unentered may enters).unnamed other)
      · cases enters.symm.trans enters'
        rfl
  seen _ _ := agrees.seen_step may does
  gone _ := agrees.gone_step may does
  unshared spot id made := by
    by_cases own : entry.spot = spot
    · subst own
      rw [ownPart_concat_self, fresh_concat] at made
      -- The action creates, settles what was created, or does neither.
      cases mark : (act entry.exchange).createMark with
      | none =>
        rw [mark] at made
        exact (agrees.unshared entry.spot id made).step may does fun _ => mark
      | some new =>
        rw [mark] at made
        cases action : act entry.exchange <;> rw [action] at mark <;> cases mark
        · cases made
          exact agrees.created does action
        · cases made
    · rw [ownPart_concat_ne _ _ own] at made
      exact (agrees.unshared spot id made).step may does fun same => absurd same own
  present _ _ := agrees.present_step may does

end

/-! Programs that may only do what keeps the names in agreement. -/

section

open Program

variable {C : Type} {R : C → Type} (act : Exchange C R → ShelfAction P I)

/-- Whatever the answer, a thread may do what it calls for. -/
def shelving : Discipline C R where
  comes _ _ := True
  makes past c := ∀ answer, MayDo act past (act ⟨c, answer⟩)

/-- A program that has taken from its place whatever it has deleted. -/
def Finishes {α : Type} (program : Program C R α) : Prop :=
  ∀ past, Clear act past → program.Follows (shelving act) (fun _ later => Clear act later) past

/-- A call that neither enters a name nor deletes anything. -/
def Quiet (c : C) : Prop :=
  ∀ answer, (∀ past, MayDo act past (act ⟨c, answer⟩)) ∧ (act ⟨c, answer⟩).oweMark = none

variable {act} {past : List (Exchange C R)} {exchange : Exchange C R} {α β ε : Type}
  {program : Program C R α}

/-- A thread that has done nothing owes nothing. -/
theorem clear_nil : Clear act ([] : List (Exchange C R)) := by
  intro id owes
  cases owes

/-- An exchange that deletes nothing leaves nothing to be owed. -/
theorem Clear.concat (clear : Clear act past) (quiet : (act exchange).oweMark = none) :
    Clear act (past ++ [exchange]) := by
  intro id owes
  rw [owed_concat, quiet] at owes
  exact (clear id owes).mono (List.subset_append_left _ _)

/-- Once a place is cleared, nothing is owed. -/
theorem clear_settled {place : P} {id : I} (settles : act exchange = .settled place id) :
    Clear act (past ++ [exchange]) := by
  intro other owes
  rw [owed_concat, settles] at owes
  cases owes

/-- What was taken from its place before may be deleted. -/
theorem Gone.clear_destroyed {id : I} (gone : Gone act past id)
    (destroys : act exchange = .destroyed id) : Clear act (past ++ [exchange]) := by
  intro other owes
  rw [owed_concat, destroys] at owes
  cases owes
  exact gone.mono (List.subset_append_left _ _)

/-- A program that only returns a value has nothing to finish. -/
theorem finishes_pure (value : α) : Finishes act (pure value : Program C R α) :=
  fun _ clear => clear

/-- Programs that finish do so in sequence. -/
theorem Finishes.bind {next : α → Program C R β} (first : Finishes act program)
    (rest : ∀ value, Finishes act (next value)) : Finishes act (program >>= next) := by
  intro past clear
  apply follows_bind
  exact (first past clear).mono fun value later => rest value later

/-- Changing its value does not keep a program from finishing. -/
theorem Finishes.map (first : Finishes act program) (change : α → β) :
    Finishes act (change <$> program) := by
  rw [map_eq_pure_bind]
  exact first.bind fun value => finishes_pure _

/-- Tasks that finish do so in sequence, and also if the first one fails. -/
theorem finishes_try {task : ExceptT ε (Program C R) α} {next : α → ExceptT ε (Program C R) β}
    (first : Finishes act task.run) (rest : ∀ value, Finishes act (next value).run) :
    Finishes act (task >>= next).run := by
  rw [ExceptT.run_bind]
  refine first.bind fun result => ?_
  cases result with
  | ok value => exact rest value
  | error failure => exact finishes_pure _

/-- A program that finishes does so inside one that may fail. -/
theorem finishes_lift (first : Finishes act program) :
    Finishes act (ExceptT.lift program : ExceptT ε (Program C R) α).run := by
  rw [ExceptT.run_lift]
  exact first.bind fun value => finishes_pure _

/-- A program that enters and deletes nothing finishes. -/
theorem finishes_of_quiet (only : program.Only (Quiet act)) : Finishes act program := by
  intro past clear
  have makes : ∀ past c, Clear act past → Quiet act c → (shelving act).makes past c :=
    fun past c _ quiet answer => (quiet answer).1 past
  have keeps : ∀ past c answer, Clear act past → Quiet act c →
      Clear act (past ++ [⟨c, answer⟩]) :=
    fun _ _ answer clear quiet => clear.concat (quiet answer).2
  exact follows_while makes keeps only clear

variable {W ι ρ : Type} {machine : Machine C R W} {start : ι → Program C R ρ} {known : C → Prop}

/--
Once all threads of a run are done, names lead to stored objects.

Every thread takes from its place what it deletes, and only known calls were made.
-/
theorem stored_of_finished (view : W → Shelf P I)
    (does : ∀ c w, known c → (view w).Does (view (machine.serve c w).2)
      (act ⟨c, (machine.serve c w).1⟩)) (finishes : ∀ req, Finishes act (start req)) {w : W}
    (agrees : ShelfAgrees act ([] : Trace C R ι) (view w)) (events : List (Event ι))
    (calls : ∀ entry ∈ Config.trace machine start ⟨w, []⟩ events, known entry.exchange.1)
    (ended : (Config.after machine start ⟨w, []⟩ events).Ended) {place : P} {id : I}
    (named : (view (Config.after machine start ⟨w, []⟩ events).world).named place = some id) :
    (view (Config.after machine start ⟨w, []⟩ events).world).stored id := by
  have initial : Disciplined (fun _ => shelving act)
      (fun (trace : Trace C R ι) w => ShelfAgrees act trace (view w))
      (fun _ _ later => Clear act later) [] (⟨w, []⟩ : Config C R W ι ρ) :=
    Disciplined.initial agrees
  have observed := Config.observes_of_trace events [] _ calls
  -- The whole run is disciplined, and at its end no thread owes a file.
  have disciplined := Disciplined.after (fun _ => True)
    (fun req _ => finishes req [] clear_nil) ?_ events [] _ initial observed
    fun _ _ => trivial
  · refine disciplined.agrees.settled (fun spot => ?_) named
    cases found : (Config.after machine start ⟨w, []⟩ events).threads[spot]? with
    | none =>
      rw [disciplined.fresh (List.getElem?_eq_none_iff.mp found)]
      exact clear_nil
    | some thread =>
      have follows := disciplined.follows spot thread found
      obtain ⟨value, ends⟩ := ended thread (List.mem_of_getElem? found)
      rw [ends] at follows
      exact follows
  -- Each served call does to the shelf what its exchange stands for.
  · intro trace config spot agree admitted req c next found enabled _ makes
    refine ⟨agree.step (makes _) (does c _ ?_), trivial⟩
    exact admitted _ (Config.entryAt_step found enabled)

end

end Process
