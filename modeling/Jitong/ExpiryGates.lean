import Jitong.Dispatch

/-!
The two places that look at the end of an access token: the entrance of
`dispatchPacket`, for packets of a connection, and `validateAccess`, for HTTP
requests and token logins.
-/

namespace Jitong

open Lib

/-- An unrevoked access token that ends at `expiresAt`, presented as it should be. -/
structure LiveToken (crypto : Crypto) (service : TokenService) (token sessionId deviceId : Bytes)
    (expiresAt : Int) : Prop where
  presented : token ≠ [] ∧ deviceId ≠ []
  stored : ∃ record, service.db.findByAccessHash (crypto.tokenHash token) = some record ∧
    record.revoked = false ∧ record.deviceId.bytes = deviceId ∧
    (sessionId = [] ∨ record.sessionId.bytes = sessionId) ∧ record.accessExpiresAt = expiresAt

theorem LiveToken.accepted_iff {crypto : Crypto} {service : TokenService}
    {token sessionId deviceId : Bytes} {expiresAt : Int}
    (live : LiveToken crypto service token sessionId deviceId expiresAt) (now : Int) :
    (service.validateAccess crypto now token sessionId deviceId).isSome = true ↔
      now < expiresAt := by
  obtain ⟨⟨tokenGiven, deviceGiven⟩, record, found, unrevoked, device, session, ends⟩ := live
  have sessionKept : ¬ (sessionId ≠ [] ∧ record.sessionId.bytes ≠ sessionId) := by
    rintro ⟨given, different⟩
    exact session.elim given different
  simp only [TokenService.validateAccess, found, tokenGiven, deviceGiven, unrevoked, device, ends,
    sessionKept, Bool.false_eq_true, ne_eq, not_true_eq_false, or_self, or_false, false_or, if_false]
  split <;> simp <;> omega

theorem exists_liveToken (crypto : Crypto) (expiresAt : Int) :
    ∃ service, LiveToken crypto service [1] [] [1] expiresAt := by
  let row : AuthSessionRecord := {
    sessionId := cstr [1], familyId := cstr [1], userId := 1, deviceId := cstr [1]
    accessHash := crypto.hashText [1], accessExpiresAt := expiresAt
    refreshHash := crypto.hashText [2], refreshExpiresAt := expiresAt
    generation := 1, revoked := false }
  refine ⟨⟨⟨⟨[row], List.pairwise_singleton _ _⟩, .empty⟩, []⟩, by decide,
    AuthTables.readAuthSession row, ?_, rfl, cstr_bytes (by decide), .inl rfl, rfl⟩
  simp [AuthTables.findByAccessHash, row, Crypto.hashText]

namespace Server

/-- Whether `dispatchPacket` hands a packet of this connection to its handler. -/
def LetsThrough (now : Int) (server : Server) (conn : ConnId) (packet : ClientPacket) : Prop :=
  ∃ session, server.sessions conn = some session ∧ session.accessExpired packet.type now = false

def GatesAgree (crypto : Crypto) (now : Int) (server : Server) (conn : ConnId)
    (session : Session) (packet : ClientPacket) : Prop :=
  server.LetsThrough now conn packet →
    ∀ service token sessionId deviceId,
      LiveToken crypto service token sessionId deviceId session.accessExpiresAt →
        (service.validateAccess crypto now token sessionId deviceId).isSome = true

/-- The gates agree except in the very second the token ends, and except for an
end of zero or less, which the connection's gate takes for none. -/
theorem gatesAgree_iff {crypto : Crypto} {now : Int} {server : Server} {conn : ConnId}
    {session : Session} {packet : ClientPacket} (live : server.sessions conn = some session)
    (authenticated : session.authenticated = true)
    (business : authMaintenance packet.type = false) :
    server.GatesAgree crypto now conn session packet ↔
      now ≠ session.accessExpiresAt ∧
        (0 < session.accessExpiresAt ∨ now < session.accessExpiresAt) := by
  have gate : server.LetsThrough now conn packet ↔
      ¬ (0 < session.accessExpiresAt ∧ session.accessExpiresAt < now) := by
    simp [LetsThrough, live, Session.accessExpired, authenticated, business]
  have other : (∀ service token sessionId deviceId,
      LiveToken crypto service token sessionId deviceId session.accessExpiresAt →
        (service.validateAccess crypto now token sessionId deviceId).isSome = true) ↔
      now < session.accessExpiresAt := by
    constructor
    · intro accepted
      obtain ⟨service, token⟩ := exists_liveToken crypto session.accessExpiresAt
      exact (token.accepted_iff now).mp (accepted _ _ _ _ token)
    · intro early service token sessionId deviceId live
      exact (live.accepted_iff now).mpr early
  rw [GatesAgree, gate, other]
  omega

def expiringConnection : Server :=
  { Server.empty with
    sessions := fun _ => some {
      userId := 1, authSessionId := ascii "s", deviceId := ascii "d", accessExpiresAt := 1700000300
      appSessionId := ascii "a", peerAddress := ascii "192.0.2.1" } }

/-- A second before the end, the gates agree about a heartbeat. -/
theorem gatesAgree_iff_before :
    expiringConnection.GatesAgree (.recorded [] []) 1700000299 0
        ((expiringConnection.sessions 0).get rfl) .heartbeat ↔
      (1700000299 : Int) ≠ 1700000300 ∧ ((0 : Int) < 1700000300 ∨ (1700000299 : Int) < 1700000300) :=
  gatesAgree_iff rfl (by decide) (by decide)

/-- In the second of the end, the connection's gate is still open. -/
theorem lastSecond_disagree :
    ¬ expiringConnection.GatesAgree (.recorded [] []) 1700000300 0
      ((expiringConnection.sessions 0).get rfl) .heartbeat := by
  intro agree
  obtain ⟨service, token⟩ := exists_liveToken (.recorded [] []) 1700000300
  have passed : expiringConnection.LetsThrough 1700000300 0 .heartbeat :=
    ⟨_, rfl, by decide⟩
  have early := (token.accepted_iff 1700000300).mp (agree passed _ _ _ _ token)
  omega

end Server

end Jitong
