import Jitong.ServerRuns

/-!
The keys that devices are bound to. A password login inserts the key of its device unless one
is there, nothing else writes the table, and so a device that has a key keeps it.
-/

namespace Jitong

open Lib

theorem Lib.Table.find?_insertOrIgnore {Row : Type} {clash : Row → Row → Bool}
    {table : Table Row clash} {row found : Row} {matching : Row → Bool}
    (stored : table.rows.find? matching = some found) :
    (table.insertOrIgnore row).rows.find? matching = some found := by
  unfold Table.insertOrIgnore
  cases inserted : table.insert row with
  | none => exact stored
  | some next =>
      rw [Option.getD_some, (Table.insert_eq_some inserted).1, List.find?_append, stored]
      rfl

namespace Server

variable (server : Server) (conn : ConnId)

theorem deliver_deviceKeys (packet : ServerPacket) :
    (server.deliver conn packet).deviceKeys = server.deviceKeys := rfl

theorem takePlace_deviceKeys (now : Int) (userId : Int32) :
    (server.takePlace now conn userId).deviceKeys = server.deviceKeys := by
  unfold takePlace
  dsimp only
  split
  · split <;> rfl
  · rfl

theorem activateSession_deviceKeys (env : Env) (userId : Int32) :
    (server.activateSession env conn userId).deviceKeys = server.deviceKeys := by
  unfold activateSession markDelivered
  dsimp only
  rw [foldl_view Server.deviceKeys _
      (replayMessage_view Server.deviceKeys deliver_deviceKeys conn userId),
    announce_view Server.deviceKeys deliver_deviceKeys, takePlace_deviceKeys]

theorem touchSession_deviceKeys (now : Int) (session : Session) :
    (server.touchSession now session).deviceKeys = server.deviceKeys := by
  unfold touchSession
  split <;> rfl

theorem presenceOffline_deviceKeys (userId : Int32) :
    (server.presenceOffline userId conn).deviceKeys = server.deviceKeys := by
  unfold presenceOffline
  split <;> rfl

theorem answerChat_deviceKeys (draft : ChatDraft) (message : StoredMessage Bytes)
    (target : Option ConnId) :
    (server.answerChat conn draft message target).deviceKeys = server.deviceKeys := by
  have erased : (server.eraseUploads draft).deviceKeys = server.deviceKeys := by
    unfold eraseUploads
    split
    · cases draft.hasThumbnail <;> cases draft.hasLargeThumbnail <;> rfl
    · rfl
  cases target <;> exact erased

theorem onChat_deviceKeys (crypto : Crypto) (env : Env) (rq : ChatInfoRq) :
    (server.onChat crypto env conn rq).deviceKeys = server.deviceKeys := by
  unfold onChat
  split
  · rfl
  · split
    · rfl
    · rfl
    · dsimp only
      split
      · rename_i after saved
        rw [saveChat_eq_false saved]
        rfl
      · rename_i message after saved
        obtain ⟨messages, _, rfl⟩ := saveChat_eq_true saved
        exact answerChat_deviceKeys ..

theorem kickRevoked_deviceKeys (userId : Int32) :
    (server.kickRevoked userId).deviceKeys = server.deviceKeys := by
  unfold kickRevoked
  split
  · split <;> rfl
  · rfl

theorem loginUser_deviceKeys (crypto : Crypto) (upgraded : Option Bytes) (written : Bool)
    (tel passHash : Bytes) :
    (server.loginUser crypto upgraded written tel passHash).2.2.deviceKeys =
      server.deviceKeys := by
  unfold loginUser
  split
  · rfl
  · dsimp only
    split
    · rfl
    · split
      · rfl
      · split
        · cases written <;> rfl
        · rfl

theorem onTokenLogin_deviceKeys (crypto : Crypto) (env : Env) (rq : TokenLoginRq) :
    (server.onTokenLogin crypto env conn rq).deviceKeys = server.deviceKeys := by
  unfold onTokenLogin
  split
  · rfl
  · split
    · rfl
    · split
      · rfl
      · exact activateSession_deviceKeys ..

theorem onTokenRefresh_deviceKeys (crypto : Crypto) (env : Env) (rq : RefreshTokenRq) :
    (server.onTokenRefresh crypto env conn rq).deviceKeys = server.deviceKeys := by
  unfold onTokenRefresh
  split
  · rfl
  · split
    · split
      · dsimp only
        split <;> rfl
      · exact kickRevoked_deviceKeys ..
      · rfl
    · rfl

theorem onLogout_deviceKeys (crypto : Crypto) (env : Env) (rq : LogoutRq) :
    (server.onLogout crypto env conn rq).deviceKeys = server.deviceKeys := by
  unfold onLogout
  split
  · rfl
  · split <;> rfl

/-! A bound key. -/

variable {server conn} {userId : Int32} {deviceId key : Bytes}

theorem getDevicePublicKey_of_same {after : Server} (same : after.deviceKeys = server.deviceKeys) :
    after.getDevicePublicKey = server.getDevicePublicKey := by
  funext userId deviceId
  simp only [getDevicePublicKey, same]

theorem getDevicePublicKey_eq_some_iff :
    server.getDevicePublicKey userId deviceId = some key ↔ key ≠ [] ∧
      ∃ row, server.deviceKeys.rows.find? (fun row =>
        row.userId = userId ∧ row.deviceId = cstr deviceId) = some row ∧ row.publicKey = key := by
  unfold getDevicePublicKey
  rw [Option.bind_eq_some_iff]
  constructor
  · rintro ⟨row, found, given⟩
    split at given
    · simp at given
    · rename_i nonempty
      rw [Option.some.injEq] at given
      exact ⟨given ▸ nonempty, row, found, given⟩
  · rintro ⟨nonempty, row, found, rfl⟩
    exact ⟨row, found, if_neg nonempty⟩

theorem bindDevicePublicKey_kept (bound : server.getDevicePublicKey userId deviceId = some key)
    (written : Bool) (other : Int32) (otherDevice otherKey : Bytes) :
    (server.bindDevicePublicKey written other otherDevice otherKey).2.getDevicePublicKey
      userId deviceId = some key := by
  unfold bindDevicePublicKey
  split
  · exact bound
  · rw [getDevicePublicKey_eq_some_iff] at bound ⊢
    obtain ⟨nonempty, row, found, same⟩ := bound
    exact ⟨nonempty, row, Table.find?_insertOrIgnore found, same⟩

theorem bindDevicePublicKey_bound {after : Server} {written : Bool}
    (accepted : server.bindDevicePublicKey written userId deviceId key = (true, after)) :
    after.getDevicePublicKey userId deviceId = some key := by
  unfold bindDevicePublicKey at accepted
  split at accepted
  · simp at accepted
  · rename_i passed
    simp only [Prod.mk.injEq] at accepted
    obtain ⟨stored, rfl⟩ := accepted
    obtain ⟨row, found, same⟩ := Option.any_eq_true .. |>.mp stored
    exact getDevicePublicKey_eq_some_iff.mpr
      ⟨fun empty => passed (.inr (.inr (.inl empty))), row, found, of_decide_eq_true same⟩

variable {crypto : Crypto} {env : Env} {session : Session} {rq : LoginRq}

theorem checkLogin_kept (bound : server.getDevicePublicKey userId deviceId = some key) :
    (server.checkLogin crypto env conn session rq).2.getDevicePublicKey userId deviceId =
      some key := by
  have kept {after : Server} (same : after.deviceKeys = server.deviceKeys) :
      after.getDevicePublicKey userId deviceId = some key := by
    rw [getDevicePublicKey_of_same same, bound]
  unfold checkLogin
  extract_lets ip
  have first : (server.limitLogin env.steady ip []).2.deviceKeys = server.deviceKeys := rfl
  generalize server.limitLogin env.steady ip [] = limited at first ⊢
  obtain ⟨allowed, limited⟩ := limited
  dsimp only at first ⊢
  split
  · exact kept first
  · split
    · exact kept first
    · split
      · exact kept first
      · have second : (limited.limitLogin env.steady ip rq.tel).2.deviceKeys =
            server.deviceKeys := first
        generalize limited.limitLogin env.steady ip rq.tel = paired at second ⊢
        obtain ⟨paired, limited⟩ := paired
        dsimp only at second ⊢
        split
        · exact kept second
        · have known := kept ((loginUser_deviceKeys limited crypto env.argonHash (env.writes 0)
            rq.tel rq.pass).trans second)
          generalize limited.loginUser crypto env.argonHash (env.writes 0) rq.tel rq.pass = login
            at known ⊢
          obtain ⟨result, loggedIn, after⟩ := login
          dsimp only at known ⊢
          split
          · exact known
          · have bound := bindDevicePublicKey_kept known (env.writes 1) loggedIn rq.deviceId
              rq.devicePublicKey
            split <;> exact bound

structure LoginAccepted (crypto : Crypto) (session : Session) (rq : LoginRq) (userId : Int32)
    (after : Server) : Prop where
  device : rq.deviceId ≠ []
  deviceSize : rq.deviceId.length ≤ 128
  proof : verifyDevice crypto session (ascii "password-login") rq.deviceId (rq.tel ++ 0 :: rq.pass)
    rq.devicePublicKey rq.deviceSignature true = true
  bound : after.getDevicePublicKey userId rq.deviceId = some rq.devicePublicKey

theorem checkLogin_accepted {after : Server}
    (accepted : server.checkLogin crypto env conn session rq = (some userId, after)) :
    LoginAccepted crypto session rq userId after := by
  unfold checkLogin at accepted
  dsimp only at accepted
  split at accepted
  · simp at accepted
  · split at accepted
    · simp at accepted
    · rename_i formed
      split at accepted
      · simp at accepted
      · rename_i proven
        split at accepted
        · simp at accepted
        · split at accepted
          · simp at accepted
          · split at accepted
            · simp at accepted
            · rename_i bound
              simp only [Prod.mk.injEq, Option.some.injEq] at accepted
              obtain ⟨rfl, rfl⟩ := accepted
              simp only [not_or, not_lt] at formed
              exact {
                device := formed.2.2.1
                deviceSize := formed.2.2.2.1
                proof := by simpa using proven
                bound := bindDevicePublicKey_bound (Prod.ext (by simpa using bound) rfl) }

theorem onLogin_deviceKeys (live : server.sessions conn = some session) :
    (server.onLogin crypto env conn rq).deviceKeys =
      (server.checkLogin crypto env conn session rq).2.deviceKeys := by
  unfold onLogin
  rw [live]
  dsimp only
  split
  · rename_i checked
    rw [checked]
  · rename_i checked
    rw [checked]
    split
    · rfl
    · exact activateSession_deviceKeys ..

theorem handle_kept (bound : server.getDevicePublicKey userId deviceId = some key)
    (request : ClientPacket) :
    (server.handle crypto env conn request).getDevicePublicKey userId deviceId = some key := by
  have kept {after : Server} (same : after.deviceKeys = server.deviceKeys) :
      after.getDevicePublicKey userId deviceId = some key := by
    rw [getDevicePublicKey_of_same same, bound]
  cases request with
  | login rq =>
      cases live : server.sessions conn with
      | none =>
          simp only [handle, onLogin, live]
          exact bound
      | some session =>
          rw [handle, getDevicePublicKey_of_same (onLogin_deviceKeys live)]
          exact checkLogin_kept bound
  | tokenLogin rq => exact kept (onTokenLogin_deviceKeys ..)
  | tokenRefresh rq => exact kept (onTokenRefresh_deviceKeys ..)
  | logout rq => exact kept (onLogout_deviceKeys ..)
  | chatInfo rq => exact kept (onChat_deviceKeys ..)
  | friendOffline =>
      refine kept ?_
      rw [handle, onOffline]
      split
      · rfl
      · exact presenceOffline_deviceKeys ..
  | heartbeat =>
      refine kept ?_
      rw [handle, onHeartbeat]
      split
      · rfl
      · exact touchSession_deviceKeys ..
  | other type => exact bound

end Server

theorem ServerEvent.apply_key {crypto : Crypto} {server : Server} {userId : Int32}
    {deviceId key : Bytes} (bound : server.getDevicePublicKey userId deviceId = some key)
    (event : ServerEvent) :
    (event.apply crypto server).getDevicePublicKey userId deviceId = some key := by
  have kept {after : Server} (same : after.deviceKeys = server.deviceKeys) :
      after.getDevicePublicKey userId deviceId = some key := by
    rw [Server.getDevicePublicKey_of_same same, bound]
  cases event with
  | connect conn appSessionId peerAddress =>
      rw [apply]
      split
      · exact bound
      · exact kept rfl
  | packet env conn request =>
      rw [apply, Server.dispatchPacket]
      split
      · exact bound
      · rename_i session live
        have touched := kept (server.touchSession_deviceKeys env.now session)
        dsimp only
        split
        · exact touched
        · exact Server.handle_kept touched request
  | closed conn =>
      refine kept ?_
      rw [apply, Server.onSessionClosed]
      split
      · rfl
      · split
        · rfl
        · dsimp only
          split
          · rfl
          · exact Server.presenceOffline_deviceKeys ..
  | destroyed conn => exact kept rfl
  | posted userId =>
      rw [apply]
      split
      · exact kept (foldl_view Server.deviceKeys _
          (Server.notifyOffline_view Server.deviceKeys Server.deliver_deviceKeys userId) _ _)
      · exact bound
  | directory users friends => exact kept rfl
  | upload fileId record => exact kept rfl

end Jitong
