/-
Two copies that run at once, one in each direction.  Each reads from its
source and writes to its sink, in several writes if need be; the first of them
that ends, or an end from elsewhere, ends both.
-/
import Epoxy.RelayLoop

namespace CopyRace

open ActionMachine RelayLoop

universe u v

variable {α : Type u} {E : Type v}

/-- `ahead` if a copy may read on while it has something left to write,
`flushes` if it flushes behind every item that it has written, and
`flushesEnd` if it flushes once its source has ended. -/
structure CopyKind where
  ahead : Bool
  flushes : Bool
  flushesEnd : Bool

/-- What the ends of a copy answer. -/
inductive CopyEvent (α : Type u) (E : Type v) where
  | read (items : List α)
  | ended
  | readFailed (error : E)
  | wrote (n : Nat)
  /-- Some items may have been taken although writing them failed. -/
  | writeFailed (n : Nat) (error : E)
  | flushed
  | flushFailed (error : E)

/-- What was read from the source. -/
def CopyEvent.read? : CopyEvent α E → Option (List α)
  | .read items => some items
  | _ => none

/-- One direction: its data, whether its source has ended, whether the sink is
being flushed, and how the copy has ended. -/
structure Copy (α : Type u) (E : Type v) where
  pump : Pump α
  ended : Bool
  flushing : Bool
  result : Option (Except E Unit)

namespace Copy

def init : Copy α E := ⟨.empty, false, false, none⟩

/-- The source is asked for more. -/
def reads (kind : CopyKind) (copy : Copy α E) : Bool :=
  !copy.ended && !copy.flushing && (kind.ahead || copy.pump.pending.isEmpty)

/-- Nothing is left to write. -/
def written (kind : CopyKind) (copy : Copy α E) : Copy α E :=
  if copy.ended then
    if kind.flushesEnd then { copy with flushing := true }
    else { copy with result := some (.ok ()) }
  else { copy with flushing := kind.flushes }

def step (kind : CopyKind) (copy : Copy α E) (event : CopyEvent α E) :
    Option (Copy α E) :=
  if copy.result.isSome then none
  else
    match event with
    | .read items =>
        if copy.reads kind then
          some { copy with pump := copy.pump.take items }
        else none
    | .ended =>
        if copy.reads kind then
          let copy := { copy with ended := true }
          if copy.pump.pending.isEmpty then some (copy.written kind)
          else some copy
        else none
    | .readFailed error =>
        if copy.reads kind then
          some { copy with result := some (.error error) }
        else none
    | .wrote n =>
        if 0 < n ∧ copy.pump.pending ≠ [] then
          let copy := { copy with pump := copy.pump.give n }
          if copy.pump.pending.isEmpty then some (copy.written kind)
          else some copy
        else none
    | .writeFailed n error =>
        if copy.pump.pending ≠ [] then
          some { copy with
            pump := copy.pump.give n
            result := some (.error error) }
        else none
    -- what reads ahead may flush whenever it waits for its source
    | .flushed =>
        if copy.flushing then
          some { copy with
            flushing := false
            result := if copy.ended then some (.ok ()) else none }
        else if kind.ahead ∧ copy.pump.pending = [] then some copy
        else none
    | .flushFailed error =>
        if copy.flushing ∨ kind.ahead ∧ copy.pump.pending = [] then
          some { copy with result := some (.error error) }
        else none

end Copy

/-- Two copies, and how both have ended. -/
structure Race (α : Type u) (E : Type v) where
  first : Copy α E
  second : Copy α E
  outcome : Option (Except E Unit)

inductive RaceEvent (α : Type u) (E : Type v) where
  | first (event : CopyEvent α E)
  | second (event : CopyEvent α E)
  | exit (result : Except E Unit)

namespace RaceEvent

/-- What was read from the source of the first copy. -/
def readFirst? : RaceEvent α E → Option (List α)
  | .first event => event.read?
  | _ => none

def readSecond? : RaceEvent α E → Option (List α)
  | .second event => event.read?
  | _ => none

end RaceEvent

namespace Race

def init : Race α E := ⟨.init, .init, none⟩

def step (one other : CopyKind) (race : Race α E) (event : RaceEvent α E) :
    Option (Race α E) :=
  if race.outcome.isSome then none
  else
    match event with
    | .first event =>
        (race.first.step one event).map fun copy =>
          { race with first := copy, outcome := copy.result }
    | .second event =>
        (race.second.step other event).map fun copy =>
          { race with second := copy, outcome := copy.result }
    | .exit result => some { race with outcome := some result }

def machine (one other : CopyKind) : Machine (Race α E) (RaceEvent α E) :=
  ⟨step one other⟩

end Race

namespace Copy

variable {kind : CopyKind} {copy next : Copy α E} {event : CopyEvent α E}
  {reads : List (List α)}

/-- What a step can do: read, write, or neither. -/
inductive Steps (kind : CopyKind) (copy : Copy α E) :
    CopyEvent α E → Copy α E → Prop where
  | quiet {event : CopyEvent α E} {ended flushing : Bool}
      {result : Option (Except E Unit)} (hread : event.read? = none)
      (hflushing : flushing = true → copy.pump.pending = [])
      (hover : result = some (.ok ()) →
        ended = true ∧ copy.pump.pending = []) :
      Steps kind copy event ⟨copy.pump, ended, flushing, result⟩
  | read {items : List α}
      (hahead : kind.ahead = false → copy.pump.pending = []) :
      Steps kind copy (.read items)
        ⟨copy.pump.take items, false, false, none⟩
  | wrote {event : CopyEvent α E} {n : Nat} {flushing : Bool}
      {result : Option (Except E Unit)} (hread : event.read? = none)
      (hflushing : flushing = true → (copy.pump.give n).pending = [])
      (hover : result = some (.ok ()) →
        copy.ended = true ∧ (copy.pump.give n).pending = []) :
      Steps kind copy event ⟨copy.pump.give n, copy.ended, flushing, result⟩

theorem reads_iff : copy.reads kind = true ↔
    copy.ended = false ∧ copy.flushing = false ∧
      (kind.ahead = false → copy.pump.pending = []) := by
  cases hahead : kind.ahead with
  | false => simp [Copy.reads, hahead, and_assoc]
  | true => simp [Copy.reads, hahead]

/-- What is done once nothing is left to write. -/
theorem written_eq (copy : Copy α E) :
    copy.written kind = ⟨copy.pump, copy.ended,
      if copy.ended then kind.flushesEnd || copy.flushing else kind.flushes,
      if copy.ended && !kind.flushesEnd then some (.ok ())
      else copy.result⟩ := by
  unfold written
  cases copy.ended with
  | false => rfl
  | true =>
      cases kind.flushesEnd with
      | false => rfl
      | true => rfl

/-- Behind the last item that is written. -/
theorem steps_of_written {flushing : Bool} {n : Nat}
    (hread : event.read? = none)
    (hpending : (copy.pump.give n).pending = []) :
    Steps kind copy event (written kind
      ⟨copy.pump.give n, copy.ended, flushing, none⟩) := by
  rw [written_eq]
  refine .wrote hread (fun _ => hpending) fun hresult => ⟨?_, hpending⟩
  cases hended : copy.ended with
  | true => rfl
  | false =>
      rw [hended] at hresult
      cases hresult

theorem steps_of_step (hflushing : copy.flushing = true →
      copy.pump.pending = [])
    (hstep : copy.step kind event = some next) :
    Steps kind copy event next := by
  obtain ⟨pump, ended, flushing, result⟩ := copy
  unfold Copy.step at hstep
  cases result with
  | some result => cases hstep
  | none =>
      rw [if_neg (by simp)] at hstep
      cases event with
      | read items =>
          simp only [Option.ite_none_right_eq_some, Option.some.injEq,
            reads_iff] at hstep
          obtain ⟨⟨rfl, rfl, hahead⟩, rfl⟩ := hstep
          exact .read hahead
      | ended =>
          simp only [Option.ite_none_right_eq_some] at hstep
          obtain ⟨-, hstep⟩ := hstep
          cases hpending : pump.pending with
          | nil =>
              simp only [hpending, List.isEmpty_nil, if_true,
                Option.some.injEq, written_eq] at hstep
              subst hstep
              exact .quiet rfl (fun _ => hpending) fun _ => ⟨rfl, hpending⟩
          | cons item rest =>
              simp only [hpending, List.isEmpty_cons] at hstep
              cases hstep
              exact .quiet rfl hflushing fun hresult => (by cases hresult)
      | readFailed error =>
          simp only [Option.ite_none_right_eq_some, Option.some.injEq] at hstep
          obtain ⟨-, rfl⟩ := hstep
          exact .quiet rfl hflushing fun hresult => (by cases hresult)
      | wrote n =>
          simp only [Option.ite_none_right_eq_some] at hstep
          obtain ⟨⟨-, hpending⟩, hstep⟩ := hstep
          have hidle : flushing = false :=
            Bool.eq_false_iff.mpr fun htrue => hpending (hflushing htrue)
          cases hrest : (pump.give n).pending with
          | nil =>
              simp only [hrest, List.isEmpty_nil, if_true,
                Option.some.injEq] at hstep
              subst hstep
              exact steps_of_written rfl hrest
          | cons item rest =>
              simp only [hrest, List.isEmpty_cons] at hstep
              cases hstep
              refine .wrote rfl (fun htrue => ?_) fun hresult => ?_
              · rw [hidle] at htrue
                cases htrue
              · cases hresult
      | writeFailed n error =>
          simp only [Option.ite_none_right_eq_some, Option.some.injEq] at hstep
          obtain ⟨hpending, rfl⟩ := hstep
          exact .wrote rfl (fun htrue => absurd (hflushing htrue) hpending)
            fun hresult => (by cases hresult)
      | flushed =>
          simp only at hstep
          cases flushing with
          | true =>
              cases hstep
              refine .quiet rfl (fun htrue => by cases htrue) fun hresult => ?_
              cases ended with
              | true => exact ⟨rfl, hflushing rfl⟩
              | false => cases hresult
          | false =>
              simp only [Bool.false_eq_true, if_false,
                Option.ite_none_right_eq_some, Option.some.injEq] at hstep
              obtain ⟨-, rfl⟩ := hstep
              exact .quiet rfl (fun htrue => by cases htrue)
                fun hresult => (by cases hresult)
      | flushFailed error =>
          simp only [Option.ite_none_right_eq_some, Option.some.injEq] at hstep
          obtain ⟨-, rfl⟩ := hstep
          exact .quiet rfl hflushing fun hresult => (by cases hresult)

/-- What holds of a copy behind these reads: it has them in order, a source
that has ended well was written whole, and what does not read ahead has at
most the rest of one read to write. -/
structure Copied (kind : CopyKind) (reads : List (List α))
    (copy : Copy α E) : Prop where
  taken : copy.pump.taken = reads.flatten
  flushing : copy.flushing = true → copy.pump.pending = []
  whole : copy.result = some (.ok ()) →
    copy.ended = true ∧ copy.pump.pending = []
  rest : kind.ahead = false → copy.pump.pending = [] ∨
    ∃ items ∈ reads, copy.pump.pending <:+ items

theorem copied_init : Copied kind [] (init : Copy α E) where
  taken := rfl
  flushing h := by cases h
  whole h := by cases h
  rest _ := .inl rfl

theorem Copied.step (h : Copied kind reads copy)
    (hstep : copy.step kind event = some next) :
    Copied kind (reads ++ event.read?.toList) next := by
  cases steps_of_step h.flushing hstep with
  | quiet hread hflushing hover =>
      rw [hread, Option.toList_none, List.append_nil]
      exact ⟨h.taken, hflushing, hover, h.rest⟩
  | @read items hahead =>
      refine ⟨?_, fun htrue => (by cases htrue), fun hresult =>
        (by cases hresult), fun hkind => .inr ⟨items, ?_, ?_⟩⟩
      · simp [CopyEvent.read?, h.taken]
      · simp [CopyEvent.read?]
      · exact ⟨[], by simp [hahead hkind]⟩
  | wrote hread hflushing hover =>
      rw [hread, Option.toList_none, List.append_nil]
      refine ⟨h.taken, hflushing, hover, fun hkind => ?_⟩
      rcases h.rest hkind with hpending | ⟨items, hitems, hsuffix⟩
      · simp [hpending]
      · exact .inr ⟨items, hitems, (List.drop_suffix _ _).trans hsuffix⟩

/-- A copy that has ended well has written all that its source had. -/
theorem Copied.given_of_ok (h : Copied kind reads copy)
    (hover : copy.result = some (.ok ())) :
    copy.pump.given = reads.flatten := by
  rw [Pump.given_of_pending (h.whole hover).2, h.taken]

theorem Copied.given_prefix (h : Copied kind reads copy) :
    copy.pump.given <+: reads.flatten := by
  rw [← h.taken]
  exact copy.pump.given_prefix

/-- What was read and not written is at most the rest of one read. -/
theorem Copied.lost (h : Copied kind reads copy) (hkind : kind.ahead = false) :
    ∃ lost, copy.pump.given ++ lost = reads.flatten ∧
      (lost = [] ∨ ∃ items ∈ reads, lost <:+ items) := by
  refine ⟨copy.pump.pending, ?_, h.rest hkind⟩
  rw [copy.pump.conserves, h.taken]

end Copy

namespace Race

variable {one other : CopyKind} {race next : Race α E}
  {event : RaceEvent α E} {firsts seconds : List (List α)}

/-- What holds of a race behind these reads: a race that has ended well has
one copy that did, or ended from elsewhere. -/
structure Raced (one other : CopyKind) (firsts seconds : List (List α))
    (exited : Prop) (race : Race α E) : Prop where
  first : race.first.Copied one firsts
  second : race.second.Copied other seconds
  ended : race.outcome = some (.ok ()) →
    race.first.result = some (.ok ()) ∨ race.second.result = some (.ok ()) ∨
      exited

theorem raced_init {exited : Prop} :
    Raced one other [] [] exited (init : Race α E) where
  first := Copy.copied_init
  second := Copy.copied_init
  ended h := by cases h

theorem Raced.step {exited : Prop}
    (h : Raced one other firsts seconds exited race)
    (hexit : event = .exit (.ok ()) → exited)
    (hstep : race.step one other event = some next) :
    Raced one other (firsts ++ event.readFirst?.toList)
      (seconds ++ event.readSecond?.toList) exited next := by
  unfold Race.step at hstep
  cases houtcome : race.outcome with
  | some outcome =>
      rw [houtcome] at hstep
      cases hstep
  | none =>
      rw [houtcome, if_neg (by simp)] at hstep
      cases event with
      | first event =>
          obtain ⟨copy, hcopy, rfl⟩ := Option.map_eq_some_iff.mp hstep
          simp only [RaceEvent.readFirst?, RaceEvent.readSecond?,
            Option.toList_none, List.append_nil]
          exact ⟨h.first.step hcopy, h.second, .inl⟩
      | second event =>
          obtain ⟨copy, hcopy, rfl⟩ := Option.map_eq_some_iff.mp hstep
          simp only [RaceEvent.readFirst?, RaceEvent.readSecond?,
            Option.toList_none, List.append_nil]
          exact ⟨h.first, h.second.step hcopy, fun hok => .inr (.inl hok)⟩
      | exit result =>
          cases hstep
          simp only [RaceEvent.readFirst?, RaceEvent.readSecond?,
            Option.toList_none, List.append_nil]
          refine ⟨h.first, h.second, fun hok => .inr (.inr (hexit ?_))⟩
          exact congrArg RaceEvent.exit (Option.some.inj hok)

theorem filterMap_cons_eq {A B : Type*} (f : A → Option B) (a : A)
    (rest : List A) :
    (a :: rest).filterMap f = (f a).toList ++ rest.filterMap f := by
  cases h : f a with
  | none => rw [List.filterMap_cons_none h, Option.toList_none, List.nil_append]
  | some b => rw [List.filterMap_cons_some h]; rfl

theorem Raced.run {exited : Prop} {events : List (RaceEvent α E)}
    (h : Raced one other firsts seconds exited race)
    (hexit : .exit (.ok ()) ∈ events → exited)
    (hrun : (machine one other).run race events = some next) :
    Raced one other (firsts ++ events.filterMap RaceEvent.readFirst?)
      (seconds ++ events.filterMap RaceEvent.readSecond?) exited next := by
  induction events generalizing race firsts seconds with
  | nil =>
      cases hrun
      simpa using h
  | cons event rest ih =>
      obtain ⟨mid, hstep, hrest⟩ := (machine one other).run_cons_eq_some hrun
      have hmid := h.step (fun heq => hexit (heq ▸ List.mem_cons_self)) hstep
      have hnext := ih hmid
        (fun hmem => hexit (List.mem_cons_of_mem _ hmem)) hrest
      rwa [List.append_assoc, List.append_assoc, ← filterMap_cons_eq,
        ← filterMap_cons_eq] at hnext

/-- The rule for whole runs. -/
theorem raced_run {events : List (RaceEvent α E)}
    (hrun : (machine one other).run init events = some race) :
    Raced one other (events.filterMap RaceEvent.readFirst?)
      (events.filterMap RaceEvent.readSecond?) (.exit (.ok ()) ∈ events)
      race :=
  raced_init.run id hrun

/-- The rule for runs whose events are made of answers. -/
theorem raced_run_map {A : Type*} {make : A → RaceEvent α E}
    {read other? : A → Option (List α)}
    (hread : ∀ answer, (make answer).readFirst? = read answer)
    (hother : ∀ answer, (make answer).readSecond? = other? answer)
    {answers : List A}
    (hrun : (machine one other).run init (answers.map make) = some race) :
    Raced one other (answers.filterMap read) (answers.filterMap other?)
      (∃ answer ∈ answers, make answer = .exit (.ok ())) race := by
  have hraced := raced_run hrun
  simp only [List.filterMap_map, List.mem_map] at hraced
  rwa [show RaceEvent.readFirst? ∘ make = read from funext hread,
    show RaceEvent.readSecond? ∘ make = other? from funext hother] at hraced

end Race

end CopyRace
