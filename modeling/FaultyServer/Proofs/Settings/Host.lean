import FaultyServer.Proofs.Address.Canonical
import FaultyServer.Proofs.Program.Loopback

/-!
# Hosts to listen on

A host is the machine's own name, or it spells an IP address; in the second case nothing but the
address counts, however it is spelled (`Settings.host_by_value`). An address that is printed, in a
log or in a message, can be used as a host again.

* `Ip.Decided`, `Ip.ofHost_eq_iff`: all that can become of a host;
* `Ip.ofHost_congr`: two hosts that spell one address are decided alike;
* `Ip.spelling_toString`: what is printed for an address spells it.
-/

namespace FaultyServer

open Address (Ip IPv4 IPv6 Socket)

namespace Address.Ip

variable {host text : String} {ip : Ip}

theorem ofString?_eq_some_iff : ofString? host = some ip ↔ ip.Spelling host.toList :=
  ofChars?_eq_some_iff

/-- The name of the machine is no spelling. -/
theorem Spelling.ne_localhost (h : ip.Spelling host.toList) : host ≠ "localhost" := by
  rintro rfl
  have hread := ofString?_eq_some_iff.2 h
  have hnone : ofString? "localhost" = none := by decide +kernel
  rw [hnone] at hread
  cases hread

/-- What becomes of a host. -/
inductive Decided (host : String) : Except HostFault Ip → Prop
  /-- The machine's own name stands for its usual address. -/
  | name (name : host = "localhost") : Decided host (.ok .localhost)
  /-- A local address is taken. -/
  | taken {ip : Ip} (spelling : ip.Spelling host.toList) (isLocal : ip.IsLocal) :
      Decided host (.ok ip)
  /-- Any other address is refused. -/
  | refused {ip : Ip} (spelling : ip.Spelling host.toList) (isLocal : ¬ ip.IsLocal) :
      Decided host (.error (.notLoopback ip))
  /-- So is a text that is no address. -/
  | unknown (name : host ≠ "localhost") (spelling : ∀ ip : Ip, ¬ ip.Spelling host.toList) :
      Decided host (.error (.invalid host))

theorem ofHost_decided (host : String) : Decided host (ofHost host) := by
  rw [ofHost]
  split
  · next hname => exact .name hname
  · next hname =>
    split
    · next hnone =>
      refine .unknown hname fun ip hip => ?_
      rw [ofString?_eq_some_iff.2 hip] at hnone
      cases hnone
    · next ip hread =>
      have hip := ofString?_eq_some_iff.1 hread
      split
      · next hlocal => exact .taken hip (isLoopback_iff.1 hlocal)
      · next hlocal => exact .refused hip (mt isLoopback_iff.2 hlocal)

/-- A host is decided in one way only. -/
theorem ofHost_eq_iff {result : Except HostFault Ip} :
    ofHost host = result ↔ Decided host result := by
  constructor
  · rintro rfl
    exact ofHost_decided host
  · rintro (hname | ⟨hip, hlocal⟩ | ⟨hip, hlocal⟩ | ⟨hname, hnone⟩)
    · rw [ofHost, if_pos hname]
    · rw [ofHost, if_neg hip.ne_localhost, ofString?_eq_some_iff.2 hip]
      exact if_pos (isLoopback_iff.2 hlocal)
    · rw [ofHost, if_neg hip.ne_localhost, ofString?_eq_some_iff.2 hip]
      exact if_neg (mt isLoopback_iff.1 hlocal)
    · have hread : ofString? host = none :=
        Option.eq_none_iff_forall_ne_some.2 fun ip hip => hnone ip (ofString?_eq_some_iff.1 hip)
      rw [ofHost, if_neg hname, hread]

theorem ofHost_eq_ok_iff :
    ofHost host = .ok ip ↔
      host = "localhost" ∧ ip = .localhost ∨ ip.Spelling host.toList ∧ ip.IsLocal := by
  rw [ofHost_eq_iff]
  constructor
  · rintro (hname | ⟨hip, hlocal⟩)
    · exact .inl ⟨hname, rfl⟩
    · exact .inr ⟨hip, hlocal⟩
  · rintro (⟨hname, rfl⟩ | ⟨hip, hlocal⟩)
    · exact .name hname
    · exact .taken hip hlocal

theorem ofHost_eq_invalid_iff :
    ofHost host = .error (.invalid text) ↔
      text = host ∧ host ≠ "localhost" ∧ ∀ ip : Ip, ¬ ip.Spelling host.toList := by
  rw [ofHost_eq_iff]
  constructor
  · rintro ⟨⟩
    exact ⟨rfl, ‹_›, ‹_›⟩
  · rintro ⟨rfl, hname, hnone⟩
    exact .unknown hname hnone

theorem ofHost_eq_notLoopback_iff :
    ofHost host = .error (.notLoopback ip) ↔ ip.Spelling host.toList ∧ ¬ ip.IsLocal := by
  rw [ofHost_eq_iff]
  constructor
  · rintro ⟨⟩
    exact ⟨‹_›, ‹_›⟩
  · rintro ⟨hip, hlocal⟩
    exact .refused hip hlocal

/-- No IPv4-mapped address is local, not even that of a local IPv4 address. -/
theorem not_isLocal_of_mapped {a : IPv6} {quad : IPv4} (h : a.mapped? = some quad) :
    ¬ (v6 a).IsLocal := by
  rintro rfl
  cases h

/-- What is printed for an address spells it. -/
theorem spelling_toString (ip : Ip) : ip.Spelling (toString ip).toList :=
  ofString?_eq_some_iff.1 ip.ofString?_toString

/-- Two hosts that spell one address are decided alike. -/
theorem ofHost_congr (h : ip.Spelling host.toList) (h' : ip.Spelling text.toList) :
    ofHost host = ofHost text := by
  by_cases hlocal : ip.IsLocal
  · rw [ofHost_eq_iff.2 (.taken h hlocal), ofHost_eq_iff.2 (.taken h' hlocal)]
  · rw [ofHost_eq_iff.2 (.refused h hlocal), ofHost_eq_iff.2 (.refused h' hlocal)]

end Address.Ip

namespace Settings

theorem listenAddress_eq_error {s : Settings} {fault : HostFault} :
    s.listenAddress = .error fault ↔ Ip.ofHost s.listen.host = .error fault := by
  rw [listenAddress, Except.bind_eq_error]
  constructor
  · rintro (h | ⟨_, _, h⟩)
    · exact h
    · cases h
  · exact .inl

/-- A host to listen on is decided by the address that it spells, and what is printed for an
address is decided in the same way.

There is an address to listen on exactly if the host is the name of the machine or spells a local
address, which it then is. A host that is neither the name nor a spelling of anything is refused as
it is, and a spelling of any other address is refused with that address; IPv4-mapped addresses are
refused, too. The text of an address that has been taken, or of one that has been refused and stands
in the message, has the same outcome as a host. -/
theorem host_by_value (s : Settings) :
    let host := s.listen.host
    (∀ address, s.listenAddress = .ok address ↔
      address.port = s.listen.port ∧
        (host = "localhost" ∧ address.ip = .localhost ∨
          address.ip.Spelling host.toList ∧ address.ip.IsLocal)) ∧
    (∀ text, s.listenAddress = .error (.invalid text) ↔
      text = host ∧ host ≠ "localhost" ∧ ∀ ip : Ip, ¬ ip.Spelling host.toList) ∧
    (∀ ip, s.listenAddress = .error (.notLoopback ip) ↔
      ip.Spelling host.toList ∧ ¬ ip.IsLocal) ∧
    (∀ (a : IPv6) quad, a.mapped? = some quad → a.Spelling host.toList →
      s.listenAddress = .error (.notLoopback (.v6 a))) ∧
    (∀ (ip : Ip) text, ip.Spelling host.toList → ip.Spelling text.toList →
      (s.withHost text).listenAddress = s.listenAddress) ∧
    (∀ address, s.listenAddress = .ok address →
      (s.withHost (toString address.ip)).listenAddress = .ok address) ∧
    ∀ ip, s.listenAddress = .error (.notLoopback ip) →
      (HostFault.notLoopback ip).message =
        "listen host " ++ toString ip ++ " is not a loopback address" ∧
      (s.withHost (toString ip)).listenAddress = .error (.notLoopback ip) := by
  intro host
  have hrefused : ∀ ip, s.listenAddress = .error (.notLoopback ip) ↔
      ip.Spelling host.toList ∧ ¬ ip.IsLocal := by
    intro ip
    rw [listenAddress_eq_error, Ip.ofHost_eq_notLoopback_iff]
  refine ⟨fun address => ?_, fun text => ?_, hrefused, fun a quad hmapped hip => ?_,
    fun ip text hip htext => ?_, fun address h => ?_, fun ip h => ⟨rfl, ?_⟩⟩
  · rw [listenAddress_eq_ok, Ip.ofHost_eq_ok_iff, and_comm, eq_comm]
  · rw [listenAddress_eq_error, Ip.ofHost_eq_invalid_iff]
  · exact (hrefused _).2 ⟨hip, Ip.not_isLocal_of_mapped hmapped⟩
  · have hhost : Ip.ofHost (s.withHost text).listen.host = Ip.ofHost host :=
      Ip.ofHost_congr htext hip
    rw [listenAddress, hhost]
    rfl
  · obtain ⟨hip, hport⟩ := listenAddress_eq_ok.1 h
    have htaken := Ip.Decided.taken address.ip.spelling_toString (Ip.ofHost_isLocal hip)
    exact listenAddress_eq_ok.2 ⟨Ip.ofHost_eq_iff.2 htaken, hport⟩
  · have hother := Ip.Decided.refused ip.spelling_toString ((hrefused ip).1 h).2
    exact listenAddress_eq_error.2 (Ip.ofHost_eq_iff.2 hother)

/-- A spelling of the IPv4-mapped address of the machine itself: it is refused, and so is the text
of the address in the message. -/
theorem host_by_value_mapped :
    let s := default.withHost "::FFFF:7f00:1"
    let ip : Ip := .v6 ⟨[0, 0, 0, 0, 0, 0xffff, 0x7f00, 1], rfl⟩
    ip.Spelling s.listen.host.toList ∧ s.listenAddress = .error (.notLoopback ip) ∧
    toString ip = "::ffff:127.0.0.1" ∧
    (s.withHost "::ffff:127.0.0.1").listenAddress = .error (.notLoopback ip) := by
  intro s ip
  have hip : ip.Spelling s.listen.host.toList := Ip.ofString?_eq_some_iff.1 (by decide +kernel)
  have htext : toString ip = "::ffff:127.0.0.1" := by decide +kernel
  obtain ⟨_, _, _, hmapped, _, _, hstable⟩ := host_by_value s
  have hrefused := hmapped _ ⟨127, 0, 0, 1⟩ (by decide) hip
  exact ⟨hip, hrefused, htext, htext ▸ (hstable ip hrefused).2⟩

/-- Some spellings of one address. -/
example :
    ["::1", "0:0:0:0:0:0:0:1", "0000:0::0001", "::0.0.0.1", "0:0:0:0:0:0:0.0.0.1"].all fun host =>
      (default.withHost host).listenAddress = .ok ⟨.v6 .loopback, 12345⟩ := by
  decide +kernel

end Settings

end FaultyServer
