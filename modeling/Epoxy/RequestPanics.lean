/-
Which requests of clients can bring the server down: at once, or by what they
leave in the record of the client's streams for the statistics to come across.
-/
import Epoxy.ActionMachine
import Epoxy.RequestOutcomes

namespace Epoxy.Server

open ByteCursor ActionMachine

variable {config : Config}

namespace Clients

variable {clients : Clients} {id : String} {uuid : Uuid}

/-- The entry is recorded for some stream of some client. -/
def Records (clients : Clients) (entry : ConnectPacket × ConnectPacket) :
    Prop :=
  ∃ id client uuid, clients.lookup id = some client ∧
    client.streams.lookup uuid = some entry

theorem records_insert {client : Client}
    {entry : ConnectPacket × ConnectPacket}
    (h : Records (clients.insert id client) entry) :
    clients.Records entry ∨
      ∃ uuid, client.streams.lookup uuid = some entry := by
  obtain ⟨other, found, uuid, hlookup, hentry⟩ := h
  by_cases hid : other = id
  · subst hid
    obtain rfl : client = found := by simpa using hlookup
    exact .inr ⟨uuid, hentry⟩
  · rw [AList.lookup_insert_ne hid] at hlookup
    exact .inl ⟨other, found, uuid, hlookup, hentry⟩

theorem records_erase {entry : ConnectPacket × ConnectPacket}
    (h : Records (clients.erase id) entry) : clients.Records entry := by
  obtain ⟨other, found, uuid, hlookup, hentry⟩ := h
  by_cases hid : other = id
  · subst hid
    simp at hlookup
  · rw [AList.lookup_erase_ne hid] at hlookup
    exact ⟨other, found, uuid, hlookup, hentry⟩

theorem records_modify {f : Streams → Streams}
    {entry : ConnectPacket × ConnectPacket}
    (h : (clients.modify id f).Records entry) :
    clients.Records entry ∨ ∃ client uuid, clients.lookup id = some client ∧
      (f client.streams).lookup uuid = some entry := by
  unfold modify at h
  cases hclient : clients.lookup id with
  | none =>
      rw [hclient] at h
      exact .inl h
  | some client =>
      rw [hclient] at h
      rcases records_insert h with h | ⟨uuid, hentry⟩
      · exact .inl h
      · exact .inr ⟨client, uuid, rfl, hentry⟩

theorem records_record {new entry : ConnectPacket × ConnectPacket}
    (h : (clients.record id uuid new).Records entry) :
    entry = new ∨ clients.Records entry := by
  rcases records_modify h with h | ⟨client, other, hclient, hentry⟩
  · exact .inr h
  · by_cases huuid : other = uuid
    · subst huuid
      simp only [AList.lookup_insert, Option.some.injEq] at hentry
      exact .inl hentry.symm
    · rw [AList.lookup_insert_ne huuid] at hentry
      exact .inr ⟨id, client, other, hclient, hentry⟩

theorem records_forget {entry : ConnectPacket × ConnectPacket}
    (h : (clients.forget id uuid).Records entry) : clients.Records entry := by
  rcases records_modify h with h | ⟨client, other, hclient, hentry⟩
  · exact h
  · by_cases huuid : other = uuid
    · subst huuid
      simp at hentry
    · rw [AList.lookup_erase_ne huuid] at hentry
      exact ⟨id, client, other, hclient, hentry⟩

/-- A stream of a client that is there is recorded. -/
theorem record_records {client : Client}
    (hclient : clients.lookup id = some client) (uuid : Uuid)
    (entry : ConnectPacket × ConnectPacket) :
    (clients.record id uuid entry).Records entry := by
  refine ⟨id, { client with streams := client.streams.insert uuid entry },
    uuid, ?_, AList.lookup_insert client.streams⟩
  simp only [record, modify, hclient, AList.lookup_insert]

end Clients

theorem generateStats_ne_panic {clients : Clients}
    (h : ∀ entry, clients.Records entry →
      Formattable config entry.1.streamType) :
    generateStats config clients ≠ .panic := by
  apply Outcome.mapM_ne_panic
  rintro ⟨id, client⟩ hclient
  rw [ne_eq, Outcome.bind_eq_panic, not_or]
  refine ⟨?_, by simp⟩
  rw [ClientStats.fromClient, Outcome.bind_eq_panic, not_or]
  refine ⟨?_, by simp⟩
  apply Outcome.mapM_ne_panic
  rintro ⟨uuid, entry⟩ hentry
  have hrecords : clients.Records entry :=
    ⟨id, client, uuid, AList.mem_lookup_iff.mpr hclient,
      AList.mem_lookup_iff.mpr hentry⟩
  obtain ⟨text, htext⟩ := h entry hrecords
  simp [StreamStats.fromEntry, htext]

/-- The clients of the server, and the streams that are about to be copied to
a wispnet server: their number, that server's client id, the packet. -/
structure RequestWorld where
  clients : Clients
  routed : List (Uuid × String × ConnectPacket)
  panicked : Bool

namespace RequestWorld

inductive Action where
  | connected (id clientType : String)
  | disconnected (id : String)
  | request (id : String) (uuid : Uuid) (connect : ConnectPacket)
      (around : Surroundings)
  | forward (index : Nat)
  | finish (id : String) (uuid : Uuid)
  | stats

def init : RequestWorld := ⟨∅, [], false⟩

/-- A stream is resolved and, if this succeeds, recorded. -/
def handleStream (config : Config) (world : RequestWorld) (id : String)
    (uuid : Uuid) (connect : ConnectPacket) (around : Surroundings) :
    RequestWorld :=
  match resolveStream config around connect with
  | .ok (requested, resolved, .wispnet muxId) =>
      { world with
        clients := world.clients.record id uuid (requested, resolved)
        routed := world.routed ++ [(uuid, muxId, resolved)] }
  | .ok (requested, resolved, _) =>
      { world with
        clients := world.clients.record id uuid (requested, resolved) }
  | .err _ => world
  | .panic => { world with panicked := true }

/-- What the tasks of the server do while it runs. -/
def act (config : Config) (world : RequestWorld) :
    Action → Option RequestWorld
  | .connected id clientType =>
      some { world with
        clients := world.clients.insert id ⟨∅, clientType⟩ }
  | .disconnected id =>
      some { world with clients := world.clients.erase id }
  | .request id uuid connect around =>
      if (world.clients.lookup id).isSome then
        some (world.handleStream config id uuid connect around)
      else none
  | .forward index =>
      (world.routed[index]?).map fun entry =>
        { world with
          clients := world.clients.record entry.2.1 entry.1
            (entry.2.2, entry.2.2)
          routed := world.routed.eraseIdx index }
  | .finish id uuid =>
      some { world with clients := world.clients.forget id uuid }
  | .stats =>
      some { world with
        panicked := generateStats config world.clients = .panic }

/-- A panic ends the process. -/
def step (config : Config) (world : RequestWorld) (action : Action) :
    Option RequestWorld :=
  if world.panicked then none else world.act config action

def machine (config : Config) : Machine RequestWorld Action :=
  ⟨step config⟩

/-- Nothing has panicked, and nothing that is recorded will. -/
structure Sound (config : Config) (world : RequestWorld) : Prop where
  running : world.panicked = false
  recorded : ∀ entry, world.clients.Records entry →
    Formattable config entry.1.streamType ∧
      Formattable config entry.2.streamType

/-- The requests that bring the server down, or leave behind what does. -/
def Fatal (config : Config) : Action → Prop
  | .request _ _ connect around =>
      StartsNoCommand config around connect ∨
        RoutesUnknownType config around connect
  | _ => False

/-- Streams on their way to a wispnet server are as sound as the recorded
ones. -/
structure Invariant (config : Config) (world : RequestWorld) : Prop
    extends Sound config world where
  routed : ∀ entry ∈ world.routed,
    Formattable config entry.2.2.streamType

variable {world next : RequestWorld} {action : Action}

theorem invariant_init : Invariant config init := by
  refine ⟨⟨rfl, ?_⟩, by simp [init]⟩
  rintro entry ⟨id, client, uuid, hclient, -⟩
  simp [init] at hclient

theorem recorded_record (hinv : Invariant config world) (id : String)
    (uuid : Uuid) {new : ConnectPacket × ConnectPacket}
    (hrequested : Formattable config new.1.streamType)
    (hresolved : Formattable config new.2.streamType) :
    ∀ entry, (world.clients.record id uuid new).Records entry →
      Formattable config entry.1.streamType ∧
        Formattable config entry.2.streamType := by
  intro entry hentry
  rcases Clients.records_record hentry with rfl | hentry
  · exact ⟨hrequested, hresolved⟩
  · exact hinv.recorded entry hentry

theorem invariant_handleStream (hinv : Invariant config world) (id : String)
    (uuid : Uuid) {connect : ConnectPacket} {around : Surroundings}
    (hcommand : ¬ StartsNoCommand config around connect)
    (hroutes : ¬ RoutesUnknownType config around connect) :
    Invariant config (world.handleStream config id uuid connect around) := by
  unfold handleStream
  cases hresult : resolveStream config around connect with
  | err reason => exact hinv
  | panic => exact absurd (resolveStream_eq_panic.mp hresult) hcommand
  | ok streams =>
      obtain ⟨requested, resolved, stream⟩ := streams
      obtain ⟨rfl, hkept, hknown⟩ := streamType_of_resolveStream hresult
      have hrequested := hknown.resolve_right hroutes
      have hresolved : Formattable config resolved.streamType := by
        rw [hkept]
        exact hrequested
      have hrecorded := recorded_record hinv id uuid
        (show Formattable config (requested, resolved).1.streamType from
          hrequested) hresolved
      cases stream with
      | wispnet muxId =>
          refine ⟨⟨hinv.running, hrecorded⟩, ?_⟩
          intro entry hentry
          rcases List.mem_append.mp hentry with hentry | hentry
          · exact hinv.routed entry hentry
          · obtain rfl := List.mem_singleton.mp hentry
            exact hresolved
      | tcp | udp | pty | noResolvedAddrs | blocked | invalid =>
          exact ⟨⟨hinv.running, hrecorded⟩, hinv.routed⟩

theorem step_eq_some (hstep : step config world action = some next) :
    world.panicked = false ∧ world.act config action = some next := by
  unfold step at hstep
  split at hstep
  · cases hstep
  · next hrunning => exact ⟨by simpa using hrunning, hstep⟩

/-- Nothing but a fatal request endangers the server. -/
theorem invariant_step (hinv : Invariant config world)
    (hfatal : ¬ Fatal config action)
    (hstep : step config world action = some next) :
    Invariant config next := by
  obtain ⟨-, hact⟩ := step_eq_some hstep
  cases action with
  | connected id clientType =>
      cases hact
      refine ⟨⟨hinv.running, fun entry hentry => ?_⟩, hinv.routed⟩
      rcases Clients.records_insert hentry with hentry | ⟨uuid, hnone⟩
      · exact hinv.recorded entry hentry
      · simp at hnone
  | disconnected id =>
      cases hact
      exact ⟨⟨hinv.running, fun entry hentry =>
        hinv.recorded entry (Clients.records_erase hentry)⟩, hinv.routed⟩
  | request id uuid connect around =>
      simp only [Fatal, not_or] at hfatal
      simp only [act, Option.ite_none_right_eq_some, Option.some.injEq] at hact
      obtain ⟨-, rfl⟩ := hact
      exact invariant_handleStream hinv id uuid hfatal.1 hfatal.2
  | forward index =>
      simp only [act, Option.map_eq_some_iff] at hact
      obtain ⟨entry, hentry, rfl⟩ := hact
      have hknown := hinv.routed entry (List.mem_of_getElem? hentry)
      refine ⟨⟨hinv.running, recorded_record hinv _ _ hknown hknown⟩, ?_⟩
      intro other hother
      exact hinv.routed other (List.mem_of_mem_eraseIdx hother)
  | finish id uuid =>
      cases hact
      exact ⟨⟨hinv.running, fun entry hentry =>
        hinv.recorded entry (Clients.records_forget hentry)⟩, hinv.routed⟩
  | stats =>
      cases hact
      have hstats : generateStats config world.clients ≠ .panic :=
        generateStats_ne_panic fun entry hentry =>
          (hinv.recorded entry hentry).1
      exact ⟨⟨decide_eq_false hstats, hinv.recorded⟩, hinv.routed⟩

/-- A fatal request panics, or is recorded for the statistics to panic. -/
theorem not_sound_of_fatal (hfatal : Fatal config action)
    (hstep : step config world action = some next) :
    ¬ Sound config next := by
  obtain ⟨-, hact⟩ := step_eq_some hstep
  intro hsound
  cases action with
  | connected | disconnected | forward | finish | stats => exact hfatal
  | request id uuid connect around =>
      simp only [act, Option.ite_none_right_eq_some, Option.isSome_iff_exists,
        Option.some.injEq] at hact
      obtain ⟨⟨client, hclient⟩, rfl⟩ := hact
      rcases hfatal with hcommand | hroutes
      · have hpanic := resolveStream_eq_panic.mpr hcommand
        have hrunning := hsound.running
        simp [handleStream, hpanic] at hrunning
      · obtain ⟨stream, hresult⟩ := hroutes.resolveStream
        apply not_formattable.mpr hroutes.unknown
        refine (hsound.recorded (connect, connect) ?_).1
        have hrecords := Clients.record_records hclient uuid
          (connect, connect)
        unfold handleStream
        rw [hresult]
        cases stream with
        | wispnet muxId => exact hrecords
        | tcp | udp | pty | noResolvedAddrs | blocked | invalid =>
            exact hrecords

/-- No request brings the server down, in this run or in what it leaves
behind, exactly if none of them is fatal. -/
theorem staysSound_iff {actions : List Action} {last : RequestWorld}
    (hrun : (machine config).run init actions = some last) :
    (machine config).Meets
        (fun world action => ∀ next,
          (machine config).step world action = some next →
            Sound config next) init actions ↔
      (machine config).Meets (fun _ action => ¬ Fatal config action) init
        actions := by
  refine (machine config).meets_iff_of_invariant ?_ ?_
    (invariant_init : Invariant config init) hrun
  · intro world action next hinv hstep
    constructor
    · intro hsound hfatal
      exact not_sound_of_fatal hfatal hstep (hsound next hstep)
    · intro hfatal other hother
      exact (invariant_step hinv hfatal hother).toSound
  · intro world action next hinv hfatal hstep
    exact invariant_step hinv hfatal hstep

/-- Terminals and wispnet are on. -/
def fullConfig : Config :=
  { ClientStream.openConfig with
    twisp := true
    wisp := { (default : WispConfig) with extensions := [.udp, .wispnet] }
    stream := { ClientStream.openConfig.stream with allowTwisp := true } }

/-- Every connection succeeds, the host name is split into the given words,
and names the wispnet server 1, which is there. -/
def agreeable (words : List String) : Surroundings where
  lookups := ⟨fun _ => some (asBytes "1"), fun _ => some [.v4 ⟨1, 1, 1, 1⟩]⟩
  connections :=
    { tcpConnect := fun _ _ => .ok ()
      setNodelay := .ok ()
      udpBind := fun _ => .ok ()
      udpConnect := fun _ _ => .ok ()
      splitWords := fun _ => .ok words
      newPty := .ok ()
      spawn := fun _ _ => .ok ()
      newStream := fun _ _ => .ok () }
  servers := (∅ : WispnetServers).insert 1 ⟨"server", false⟩

theorem staysSound_of_tcp_request :
    (machine fullConfig).Meets
      (fun world action => ∀ next,
        (machine fullConfig).step world action = some next →
          Sound fullConfig next) init
      [.connected "client" "wisp",
        .request "client" 0 ⟨.tcp, "example.com", 80⟩ (agreeable []),
        .stats] := by
  refine (staysSound_iff rfl).mpr ?_
  apply Machine.meets_of_forall
  intro world action haction hfatal
  simp only [List.mem_cons, List.not_mem_nil, or_false] at haction
  rcases haction with rfl | rfl | rfl
  · exact hfatal
  · rcases hfatal with hcommand | hroutes
    · cases hcommand.command.streamType
    · exact not_formattable.mpr hroutes.unknown ⟨"tcp", rfl⟩
  · exact hfatal

/-- A terminal whose command line is empty, and a stream of type 9 for a
wispnet server, of which the statistics are asked. -/
theorem not_staysSound_of_fatal_requests :
    ¬ (machine fullConfig).Meets
      (fun world action => ∀ next,
        (machine fullConfig).step world action = some next →
          Sound fullConfig next) init
      [.connected "client" "wisp",
        .request "client" 0 ⟨.other 0x03, "", 0⟩ (agreeable [])] ∧
    ¬ (machine fullConfig).Meets
      (fun world action => ∀ next,
        (machine fullConfig).step world action = some next →
          Sound fullConfig next) init
      [.connected "client" "wisp",
        .request "client" 0 ⟨.other 9, "MQ==.wisp", 80⟩ (agreeable []),
        .stats] := by
  constructor
  · intro hmeets
    have hlast := hmeets.holds invariant_init.toSound rfl
    cases hlast.running
  · intro hmeets
    have hlast := hmeets.holds invariant_init.toSound rfl
    have hrunning := hlast.running
    revert hrunning
    decide

end RequestWorld

end Epoxy.Server
