import UdsRs.Uds.SendAndReceive.Decisive

namespace uds_rs.uds

open rust TryFromPrimitive NegativeResponseCode UdsClient

variable {final final' : UInt8 → Packet → Prop} {sid sid' : UInt8} {request data : Packet}
  {msgs : List Packet}

/-- How an ECU answers one request: by a single busy answer, or by any number of
pending answers and then one packet that `final` admits for the service. -/
def AnswersBy (final : UInt8 → Packet → Prop) (request : Packet) (msgs : List Packet) : Prop :=
  ∃ sid, request.head? = some sid ∧
    ((∃ raw, msgs = [raw] ∧ Busy sid raw) ∨
      ∃ pendings f, msgs = pendings ++ [f] ∧ (∀ raw ∈ pendings, Pending sid raw) ∧ final sid f)

theorem answersBy_cons_iff :
    AnswersBy final (sid :: data) msgs ↔ (∃ raw, msgs = [raw] ∧ Busy sid raw) ∨
      ∃ pendings f, msgs = pendings ++ [f] ∧ (∀ raw ∈ pendings, Pending sid raw) ∧ final sid f := by
  constructor
  · rintro ⟨_, hhead, hanswer⟩
    obtain rfl := Option.some.inj hhead
    exact hanswer
  · intro hanswer
    exact ⟨sid, rfl, hanswer⟩

theorem AnswersBy.mono (h : AnswersBy final request msgs)
    (hle : ∀ sid f, final sid f → final' sid f) : AnswersBy final' request msgs := by
  obtain ⟨sid, hhead, hbusy | ⟨pendings, f, hmsgs, hpendings, hf⟩⟩ := h
  · exact ⟨sid, hhead, .inl hbusy⟩
  · exact ⟨sid, hhead, .inr ⟨pendings, f, hmsgs, hpendings, hle sid f hf⟩⟩

/-- An ECU whose final packet is only known not to ask for a repetition or for
patience. It may be empty, malformed, or a rejection of another service. -/
def EcuAnswers : Packet → List Packet → Prop := AnswersBy Decisive

/-- A decisive packet that, where it is a negative response, rejects the service
that was requested. No other call can then mistake it for a pending answer. -/
def Final (sid : UInt8) (f : Packet) : Prop :=
  Decisive sid f ∧
    ∀ rejected_sid rest, f = NEGATIVE_RESPONSE_SID :: rejected_sid :: rest → rejected_sid = sid

/-- An ECU that rejects no service but the requested one. Results about calls that
read each other's answers need this much; `EcuAnswers` suffices for calls that find
nothing but their own. -/
def Conforming : Packet → List Packet → Prop := AnswersBy Final

theorem Conforming.ecuAnswers (h : Conforming request msgs) : EcuAnswers request msgs :=
  AnswersBy.mono h fun _ _ hfinal => hfinal.1

theorem Final.not_pending {f : Packet} (h : Final sid f) : ¬ Pending sid' f := by
  intro hpending
  obtain ⟨rest, rfl⟩ := negative_iff.mp hpending
  obtain rfl := h.2 sid' _ rfl
  exact h.1.2 hpending

theorem Busy.not_pending_any {raw : Packet} (h : Busy sid raw) : ¬ Pending sid' raw := by
  obtain ⟨rest, rfl⟩ := negative_iff.mp h
  intro hpending
  obtain ⟨rest', hrest⟩ := negative_iff.mp hpending
  simp only [List.cons.injEq] at hrest
  exact absurd hrest.2.2.1 (by decide)

/-- Exactly one of the answers to a request settles it, in that the call need not
wait for another: the busy answer, or the packet after the pending ones. -/
theorem Conforming.countP_settling (h : Conforming (sid :: data) msgs) :
    msgs.countP (fun raw => ¬ Pending sid raw) = 1 := by
  rcases answersBy_cons_iff.mp h with ⟨raw, rfl, hbusy⟩ | ⟨pendings, f, rfl, hpendings, hfinal⟩
  · simp [hbusy.not_pending]
  · have hnone : pendings.countP (fun raw => ¬ Pending sid raw) = 0 :=
      List.countP_eq_zero.mpr (by simpa using hpendings)
    rw [List.countP_append, hnone]
    simp [hfinal.not_pending]

/-- The answer that settles a request delays no call, not even one of another
service that happens to receive it. -/
theorem Conforming.not_pending {msg : Packet} (h : Conforming (sid :: data) msgs)
    (hmem : msg ∈ msgs) (hsettling : ¬ Pending sid msg) : ¬ Pending sid' msg := by
  rcases answersBy_cons_iff.mp h with ⟨raw, rfl, hbusy⟩ | ⟨pendings, f, rfl, hpendings, hfinal⟩
  · rw [List.mem_singleton.mp hmem]
    exact hbusy.not_pending_any
  · rcases List.mem_append.mp hmem with hold | hlast
    · exact absurd (hpendings msg hold) hsettling
    · rw [List.mem_singleton.mp hlast]
      exact hfinal.not_pending

theorem final_read (byte : UInt8) : Final 0x23 [0x63, byte] := by
  refine ⟨⟨?_, ?_⟩, ?_⟩
  · simp [Busy, Negative]
  · simp [Pending, Negative]
  · intro rejected_sid rest heq
    cases heq

theorem conforming_read (address byte : UInt8) :
    Conforming [0x23, 0x11, address, 0x01] [[0x63, byte]] :=
  ⟨0x23, rfl, .inr ⟨[], [0x63, byte], rfl, by simp, final_read byte⟩⟩

theorem conforming_delayed_read (address byte : UInt8) :
    Conforming [0x23, 0x11, address, 0x01] [[0x7F, 0x23, 0x78], [0x63, byte]] :=
  ⟨0x23, rfl, .inr ⟨[[0x7F, 0x23, 0x78]], [0x63, byte], rfl, by decide, final_read byte⟩⟩

end uds_rs.uds
