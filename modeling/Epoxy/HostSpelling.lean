/-
Host names that are one name to the DNS and several to the server.  The checks
see the text that the client sent, so that two spellings get the same answer
where the patterns make no difference between them, and not otherwise.
-/
import Epoxy.AddressText
import Epoxy.ConfigCache

namespace Epoxy.Server

open ByteCursor Net

/-- Equal up to the case of ASCII letters. -/
def SameLetters (host other : String) : Prop :=
  host.toList.map Char.toLower = other.toList.map Char.toLower

instance (host other : String) : Decidable (SameLetters host other) :=
  inferInstanceAs (Decidable (_ = _))

/-- One name to the DNS: a dot at the end makes no difference either. -/
inductive SameName (host other : String) : Prop where
  | letters (h : SameLetters host other)
  | dotted (h : SameLetters (host ++ ".") other)
  | undotted (h : SameLetters host (other ++ "."))

/-- The sets of patterns that are asked about the host of such a stream. -/
def StreamConfig.consults (config : StreamConfig) :
    StreamType → List RegexSet
  | .tcp => [config.allowedTcpHosts, config.blockedTcpHosts,
      config.allowedHosts, config.blockedHosts]
  | .udp => [config.allowedUdpHosts, config.blockedUdpHosts,
      config.allowedHosts, config.blockedHosts]
  | .other _ => []

/-- An address with a dot behind it is no address any more. -/
theorem fromStr_of_dotted {host other : String}
    (h : SameLetters host (other ++ ".")) : IpAddr.fromStr host = none := by
  rw [fromStr_eq_of_sameLetters h, fromStr_append_dot]

/-- The check of literal addresses tells two spellings of a name apart only
where a literal address has a dot behind it. -/
theorem SameName.directIp_eq {config : StreamConfig} {host other : String}
    (h : SameName host other)
    (hdot : SameLetters (host ++ ".") other →
      (IpAddr.fromStr host).isSome = true → config.allowDirectIp = true)
    (hdot' : SameLetters host (other ++ ".") →
      (IpAddr.fromStr other).isSome = true → config.allowDirectIp = true) :
    ((IpAddr.fromStr host).isSome && !config.allowDirectIp) =
      ((IpAddr.fromStr other).isSome && !config.allowDirectIp) := by
  cases h with
  | letters h => rw [fromStr_eq_of_sameLetters h]
  | dotted h =>
      rw [fromStr_of_dotted h.symm]
      cases hhost : (IpAddr.fromStr host).isSome with
      | false => rfl
      | true => rw [hdot h hhost, Bool.not_true, Bool.and_false, Bool.and_false]
  | undotted h =>
      rw [fromStr_of_dotted h]
      cases hother : (IpAddr.fromStr other).isSome with
      | false => rfl
      | true =>
          rw [hdot' h hother, Bool.not_true, Bool.and_false, Bool.and_false]

namespace ClientStream

variable {config : Config} {lookups : Lookups} {ty : StreamType}
  {port : UInt16} {host other : String}

/-- What is made of the addresses has nothing of the name. -/
theorem resolveAddrs_eq_of_resolve
    (haddrs : lookups.resolve host = lookups.resolve other) :
    resolveAddrs config lookups ⟨ty, host, port⟩ =
      resolveAddrs config lookups ⟨ty, other, port⟩ := by
  unfold resolveAddrs
  dsimp only
  rw [haddrs]
  rfl

theorem resolveHost_eq_of_consults
    (haddrs : lookups.resolve host = lookups.resolve other)
    (hsets : ∀ set ∈ config.stream.consults ty, set host = set other) :
    resolveHost config lookups ⟨ty, host, port⟩ =
      resolveHost config lookups ⟨ty, other, port⟩ := by
  have hlookup := @resolveAddrs_eq_of_resolve config lookups ty port host other
    haddrs
  cases ty with
  | tcp | udp =>
      simp only [StreamConfig.consults, List.forall_mem_cons] at hsets
      obtain ⟨hallowed, hblocked, hallowed', hblocked', -⟩ := hsets
      simp only [resolveHost, StreamConfig.allowedSet, StreamConfig.blockedSet,
        Outcome.bind_ok, matchAddr, hallowed, hblocked, hallowed', hblocked',
        hlookup]
      rfl
  | other ty => rfl

/-- Two spellings of a name get the same answer where every set of patterns
that is asked matches both or neither, and no literal address has a dot behind
it in one of them. -/
theorem resolve_eq_of_sameName (config : Config) (lookups : Lookups)
    (port : UInt16) (hty : ty = .tcp ∨ ty = .udp)
    (hwispnet : isWispnet config ⟨ty, host, port⟩ = false)
    (hwispnet' : isWispnet config ⟨ty, other, port⟩ = false)
    (hname : SameName host other)
    (haddrs : lookups.resolve host = lookups.resolve other)
    (hsets : ∀ set ∈ config.stream.consults ty, set host = set other)
    (hdot : SameLetters (host ++ ".") other →
      (IpAddr.fromStr host).isSome = true →
      config.stream.allowDirectIp = true)
    (hdot' : SameLetters host (other ++ ".") →
      (IpAddr.fromStr other).isSome = true →
      config.stream.allowDirectIp = true) :
    resolve config lookups ⟨ty, host, port⟩ =
      resolve config lookups ⟨ty, other, port⟩ := by
  have hhost := @resolveHost_eq_of_consults config lookups ty port host other
    haddrs hsets
  have hdirect := hname.directIp_eq hdot hdot'
  rw [resolve_of_not_wispnet hty hwispnet,
    resolve_of_not_wispnet hty hwispnet']
  simp only [hdirect, hhost]

theorem resolve_eq_of_unlisted_name :
    ∃ stream, blocksA.cache plainPatterns = .ok stream ∧
      resolve { openConfig with stream } (answering (.v4 localhost))
          ⟨.tcp, "host", 80⟩ =
        resolve { openConfig with stream } (answering (.v4 localhost))
          ⟨.tcp, "HOST", 80⟩ := by
  obtain ⟨stream, hstream⟩ : ∃ stream,
      blocksA.cache plainPatterns = .ok stream := ⟨_, rfl⟩
  refine ⟨stream, hstream, ?_⟩
  refine resolve_eq_of_sameName _ _ _ (.inl rfl) ?_ ?_ ?_ ?_ ?_ ?_ ?_
  · rfl
  · rfl
  · exact .letters (by decide)
  · rfl
  · cases hstream
    -- no set of patterns matches either spelling
    decide
  · intro _ hliteral
    exact absurd hliteral (by decide)
  · intro _ hliteral
    exact absurd hliteral (by decide)

/-- A pattern in small letters does not match the name in capitals, and an
address with a dot behind it is not taken for one. -/
theorem resolve_ne_of_spelling :
    ∃ stream, blocksA.cache plainPatterns = .ok stream ∧
      (SameName "a" "A" ∧
        resolve { openConfig with stream } (answering (.v4 localhost))
          ⟨.tcp, "a", 80⟩ = .ok .blocked ∧
        resolve { openConfig with stream } (answering (.v4 localhost))
          ⟨.tcp, "A", 80⟩ = .ok (.valid ⟨.tcp, "127.0.0.1", 80⟩)) ∧
      SameName "127.0.0.1" "127.0.0.1." ∧
        resolve { openConfig with stream } (answering (.v4 localhost))
          ⟨.tcp, "127.0.0.1", 80⟩ = .ok .blocked ∧
        resolve { openConfig with stream } (answering (.v4 localhost))
          ⟨.tcp, "127.0.0.1.", 80⟩ =
            .ok (.valid ⟨.tcp, "127.0.0.1", 80⟩) := by
  refine ⟨_, rfl, ⟨.letters (by decide), rfl, rfl⟩, .dotted (by decide), rfl,
    rfl⟩

end ClientStream

end Epoxy.Server
