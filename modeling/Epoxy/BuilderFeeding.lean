/-
What a row of entries makes of a list of builders.  Only the first builder of
each id is fed, with the payloads of its id in their order; where it accepts
them all, the whole row is built and every builder's last state is known.
-/
import Epoxy.BuilderCalls
import Epoxy.HandshakeAgreement

namespace Epoxy

open ByteCursor InfoPacket
open ProtocolExtensionBuilder (buildFromBytes buildToExtension)

/-- The payloads of the entries with this id. -/
def payloadsFor (id : UInt8) (entries : List (UInt8 × Bytes)) : List Bytes :=
  (entries.filter fun entry => entry.1 = id).map Prod.snd

def withoutId (id : UInt8) (entries : List (UInt8 × Bytes)) :
    List (UInt8 × Bytes) :=
  entries.filter fun entry => entry.1 ≠ id

theorem payloadsFor_cons_self (id : UInt8) (payload : Bytes)
    (entries : List (UInt8 × Bytes)) :
    payloadsFor id ((id, payload) :: entries) =
      payload :: payloadsFor id entries := by
  simp [payloadsFor]

theorem payloadsFor_cons_ne {id other : UInt8} (hne : id ≠ other)
    (payload : Bytes) (entries : List (UInt8 × Bytes)) :
    payloadsFor other ((id, payload) :: entries) =
      payloadsFor other entries := by
  simp [payloadsFor, hne]

theorem withoutId_cons_self (id : UInt8) (payload : Bytes)
    (entries : List (UInt8 × Bytes)) :
    withoutId id ((id, payload) :: entries) = withoutId id entries := by
  simp [withoutId]

theorem withoutId_cons_ne {id other : UInt8} (hne : id ≠ other)
    (payload : Bytes) (entries : List (UInt8 × Bytes)) :
    withoutId other ((id, payload) :: entries) =
      (id, payload) :: withoutId other entries := by
  simp [withoutId, hne]

theorem payloadsFor_withoutId {id other : UInt8} (hne : id ≠ other)
    (entries : List (UInt8 × Bytes)) :
    payloadsFor id (withoutId other entries) = payloadsFor id entries := by
  simp only [payloadsFor, withoutId, List.filter_filter]
  congr 1
  apply List.filter_congr
  intro entry _
  by_cases hentry : entry.1 = id
  · simp [hentry, hne]
  · simp [hentry]

theorem payloadsFor_eq_nil {id : UInt8} {entries : List (UInt8 × Bytes)} :
    payloadsFor id entries = [] ↔ id ∉ entries.map Prod.fst := by
  simp only [payloadsFor, List.map_eq_nil_iff, List.filter_eq_nil_iff,
    decide_eq_true_eq, List.mem_map, not_exists, not_and]

/-- At most one entry has the id. -/
theorem payloadsFor_cases {id : UInt8} {entries : List (UInt8 × Bytes)}
    (hcount : (entries.map Prod.fst).count id ≤ 1) :
    payloadsFor id entries = [] ∨
      ∃ payload, (id, payload) ∈ entries ∧
        payloadsFor id entries = [payload] := by
  induction entries with
  | nil => exact .inl rfl
  | cons entry rest ih =>
      obtain ⟨other, payload⟩ := entry
      rw [List.map_cons, List.count_cons] at hcount
      by_cases hid : other = id
      · subst hid
        have hrest : payloadsFor other rest = [] := by
          rw [payloadsFor_eq_nil, ← List.count_eq_zero]
          simpa using hcount
        refine .inr ⟨payload, List.mem_cons_self, ?_⟩
        rw [payloadsFor_cons_self, hrest]
      · rw [payloadsFor_cons_ne hid]
        rcases ih (by omega) with hnone | ⟨found, hmem, hfound⟩
        · exact .inl hnone
        · exact .inr ⟨found, List.mem_cons_of_mem _ hmem, hfound⟩

theorem nodup_withoutId {entries : List (UInt8 × Bytes)}
    (hnodup : (entries.map Prod.fst).Nodup) (id : UInt8) :
    ((withoutId id entries).map Prod.fst).Nodup :=
  hnodup.sublist (List.Sublist.map Prod.fst List.filter_sublist)

section Feeding

variable {E B : Type} [ProtocolExtensionBuilder B E]

/-- The builder builds from each of the payloads in turn. -/
def Accepts (role : Role) : B → List Bytes → Prop
  | _, [] => True
  | builder, payload :: rest =>
      (∃ extension,
        (buildFromBytes builder payload role).2 = .ok extension) ∧
      Accepts role (buildFromBytes builder payload role).1 rest

/-- What the payloads make of the builder. -/
def fed (role : Role) (builder : B) (payloads : List Bytes) : B :=
  payloads.foldl (fun builder payload => (buildFromBytes builder payload role).1)
    builder

def AcceptsAll (role : Role) : List (UInt8 × Bytes) → List B → Prop
  | _, [] => True
  | entries, builder :: rest =>
      Accepts role builder
        (payloadsFor (ProtocolExtensionBuilder.getId builder) entries) ∧
      AcceptsAll role
        (withoutId (ProtocolExtensionBuilder.getId builder) entries) rest

def fedAll (role : Role) : List (UInt8 × Bytes) → List B → List B
  | _, [] => []
  | entries, builder :: rest =>
      fed role builder
          (payloadsFor (ProtocolExtensionBuilder.getId builder) entries) ::
        fedAll role
          (withoutId (ProtocolExtensionBuilder.getId builder) entries) rest

theorem fedAll_nil (role : Role) (builders : List B) :
    fedAll role [] builders = builders := by
  induction builders with
  | nil => rfl
  | cons head tail ih => exact congrArg (head :: ·) ih

/-- Of distinct entries a builder gets at most one. -/
theorem acceptsAll_of_entries {role : Role} {entries : List (UInt8 × Bytes)}
    {builders : List B} (hnodup : (entries.map Prod.fst).Nodup)
    (hbuilt : ∀ builder ∈ builders, ∀ payload,
      (ProtocolExtensionBuilder.getId builder, payload) ∈ entries →
      ∃ extension,
        (buildFromBytes builder payload role).2 = .ok extension) :
    AcceptsAll role entries builders := by
  induction builders generalizing entries with
  | nil => trivial
  | cons head tail ih =>
      refine ⟨?_, ih (nodup_withoutId hnodup _) ?_⟩
      · rcases payloadsFor_cases (List.nodup_iff_count_le_one.mp hnodup
            (ProtocolExtensionBuilder.getId head)) with
          hnone | ⟨payload, hmem, hone⟩
        · rw [hnone]
          trivial
        · rw [hone]
          exact ⟨hbuilt head List.mem_cons_self payload hmem, trivial⟩
      · intro builder hbuilder payload hmem
        exact hbuilt builder (List.mem_cons_of_mem head hbuilder) payload
          (List.mem_of_mem_filter hmem)

/-- Builders with distinct ids do not take anything from each other. -/
theorem acceptsAll_of_builders {role : Role} {entries : List (UInt8 × Bytes)}
    {builders : List B} (hnodup : (builderIds builders).Nodup)
    (haccepts : ∀ builder ∈ builders, Accepts role builder
      (payloadsFor (ProtocolExtensionBuilder.getId builder) entries)) :
    AcceptsAll role entries builders := by
  induction builders generalizing entries with
  | nil => trivial
  | cons head tail ih =>
      rw [builderIds, List.map_cons, List.nodup_cons] at hnodup
      refine ⟨haccepts head List.mem_cons_self, ih hnodup.2 ?_⟩
      intro builder hbuilder
      have hne : ProtocolExtensionBuilder.getId builder ≠
          ProtocolExtensionBuilder.getId head := by
        intro heq
        exact hnodup.1 (List.mem_map.mpr ⟨builder, hbuilder, heq⟩)
      rw [payloadsFor_withoutId hne]
      exact haccepts builder (List.mem_cons_of_mem head hbuilder)

/-- An entry without a builder is nobody's. -/
theorem acceptsAll_of_absent (role : Role) {id : UInt8} {builders : List B}
    (hid : id ∉ builderIds builders) (payload : Bytes)
    (entries : List (UInt8 × Bytes)) :
    (AcceptsAll role ((id, payload) :: entries) builders ↔
      AcceptsAll role entries builders) ∧
    fedAll role ((id, payload) :: entries) builders =
      fedAll role entries builders := by
  induction builders generalizing entries with
  | nil => exact ⟨Iff.rfl, rfl⟩
  | cons head tail ih =>
      simp only [builderIds, List.map_cons, List.mem_cons, not_or] at hid
      obtain ⟨hhead, htail⟩ := hid
      obtain ⟨haccepts, hfed⟩ := ih htail
        (withoutId (ProtocolExtensionBuilder.getId head) entries)
      simp only [AcceptsAll, fedAll, payloadsFor_cons_ne hhead,
        withoutId_cons_ne hhead, haccepts, hfed, and_self]

variable [ProtocolExtension E] [LawfulBuilders B E]

/-- An entry goes to the first builder of its id. -/
theorem acceptsAll_of_first (role : Role) (payload : Bytes)
    (entries : List (UInt8 × Bytes)) {before : List B} (after : List B)
    {builder : B}
    (hbefore : ProtocolExtensionBuilder.getId builder ∉ builderIds before) :
    (AcceptsAll role
        ((ProtocolExtensionBuilder.getId builder, payload) :: entries)
        (before ++ builder :: after) ↔
      (∃ extension,
        (buildFromBytes builder payload role).2 = .ok extension) ∧
      AcceptsAll role entries
        (before ++ (buildFromBytes builder payload role).1 :: after)) ∧
    fedAll role
        ((ProtocolExtensionBuilder.getId builder, payload) :: entries)
        (before ++ builder :: after) =
      fedAll role entries
        (before ++ (buildFromBytes builder payload role).1 :: after) := by
  induction before generalizing entries with
  | nil =>
      simp only [List.nil_append, AcceptsAll, fedAll,
        payloadsFor_cons_self, withoutId_cons_self, Accepts, fed,
        List.foldl_cons, LawfulBuilders.getId_buildFromBytes, and_assoc,
        and_self]
  | cons head tail ih =>
      simp only [builderIds, List.map_cons, List.mem_cons, not_or] at hbefore
      obtain ⟨hhead, htail⟩ := hbefore
      obtain ⟨haccepts, hfed⟩ := ih
        (withoutId (ProtocolExtensionBuilder.getId head) entries) htail
      simp only [List.cons_append, AcceptsAll, fedAll,
        payloadsFor_cons_ne hhead, withoutId_cons_ne hhead, haccepts, hfed,
        and_true]
      exact and_left_comm

/-- Where every builder accepts what it is fed, the whole row is built. -/
theorem buildEntries_of_acceptsAll {role : Role}
    {entries : List (UInt8 × Bytes)} {builders : List B}
    (h : AcceptsAll role entries builders) :
    ∃ extensions, buildEntries role builders entries =
      .ok (fedAll role entries builders, extensions) := by
  induction entries generalizing builders with
  | nil => exact ⟨[], by rw [buildEntries, fedAll_nil]⟩
  | cons entry rest ih =>
      obtain ⟨id, payload⟩ := entry
      rw [buildEntries]
      cases hfind : findBuilder id builders with
      | none =>
          have hid : id ∉ builderIds builders := findBuilder_eq_none hfind
          obtain ⟨haccepts, hfed⟩ :=
            acceptsAll_of_absent role hid payload rest
          rw [hfed]
          exact ih (haccepts.mp h)
      | some found =>
          obtain ⟨before, builder, after⟩ := found
          obtain ⟨rfl, rfl, hbefore⟩ := first_of_findBuilder hfind
          have hfirst : ProtocolExtensionBuilder.getId builder ∉
              builderIds before := by
            simpa [builderIds] using hbefore
          obtain ⟨haccepts, hfed⟩ :=
            acceptsAll_of_first role payload rest after hfirst
          obtain ⟨⟨extension, hbuilt⟩, hrest⟩ := haccepts.mp h
          obtain ⟨extensions, hnext⟩ := ih hrest
          refine ⟨extension :: extensions, ?_⟩
          dsimp only
          rw [hbuilt, Outcome.bind_ok, hnext, Outcome.bind_ok, hfed]

end Feeding

end Epoxy
