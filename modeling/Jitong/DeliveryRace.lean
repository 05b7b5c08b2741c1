import Jitong.ChatStored
import Jitong.ServerFrame

/-!
A message on its way to a user who is logging in. `onChat` runs on the sender's
strand and `activateSession` on the receiver's, so their steps interleave: one
looks up the receiver, saves the message and answers; the other registers the
new connection, tells the friends, pulls what is undelivered, replays it and
marks it.
-/

namespace Jitong

open Lib

inductive ChatStage
  | checked
  | looked (target : Option ConnId)
  | saved (target : Option ConnId) (message : StoredMessage Bytes)
  | unsaved
  | answered (target : Option ConnId) (message : StoredMessage Bytes)
  | refused
  deriving DecidableEq

/-- Where `activateSession` is. `deliveredIds` are those of the messages that the
loop is done with. -/
inductive LoginStage
  | bound
  | registered
  | announced
  | replaying (delivered remaining : List (StoredMessage Bytes))
  | marked (delivered : List (StoredMessage Bytes))
  deriving DecidableEq

/-- The two requests: an accepted chat message from `sender`, and the login that
the receiver has made on `conn`. -/
structure RaceSetup where
  sender : ConnId
  chatEnv : Env
  draft : ChatDraft
  conn : ConnId
  loginEnv : Env

def RaceSetup.userId (setup : RaceSetup) : Int32 := setup.draft.rq.friid

def RaceSetup.msgId (setup : RaceSetup) : Text := cstr setup.draft.message.msgId

structure Race where
  server : Server
  chat : ChatStage
  login : LoginStage

inductive RaceEvent
  | look
  | save
  | answer
  | register
  | announce
  | pull
  | replay
  | mark
  deriving DecidableEq

namespace Race

def step (setup : RaceSetup) (race : Race) : RaceEvent → Option Race
  | .look =>
      match race.chat with
      | .checked => some { race with chat := .looked (race.server.presenceGet setup.userId) }
      | _ => none
  | .save =>
      match race.chat with
      | .looked target =>
          match race.server.saveChat setup.chatEnv.writes setup.draft.message target.isSome with
          | (true, message, server) => some { race with server, chat := .saved target message }
          | (false, _, server) => some { race with server, chat := .unsaved }
      | _ => none
  | .answer =>
      match race.chat with
      | .saved target message =>
          some { race with
            server := race.server.answerChat setup.sender setup.draft message target
            chat := .answered target message }
      | .unsaved =>
          some { race with
            server := race.server.deliverFailure setup.sender setup.draft.rq chatResultServerError
            chat := .refused }
      | _ => none
  | .register =>
      match race.login with
      | .bound =>
          some { race with
            server := race.server.takePlace setup.loginEnv.now setup.conn setup.userId
            login := .registered }
      | _ => none
  | .announce =>
      match race.login with
      | .registered =>
          some { race with
            server := race.server.announce setup.conn setup.userId
            login := .announced }
      | _ => none
  | .pull =>
      match race.login with
      | .announced =>
          some { race with
            login := .replaying [] (race.server.messages.pullUndelivered setup.userId) }
      | _ => none
  | .replay =>
      match race.login with
      | .replaying delivered (message :: remaining) =>
          some { race with
            server := Server.replayMessage setup.conn setup.userId race.server message
            login := .replaying (delivered ++ [message]) remaining }
      | _ => none
  | .mark =>
      match race.login with
      | .replaying delivered [] =>
          some { race with
            server := race.server.markDelivered setup.loginEnv.writes delivered
            login := .marked delivered }
      | _ => none

def start (server : Server) : Race := ⟨server, .checked, .bound⟩

end Race

def RaceStep (setup : RaceSetup) (before : Race) (event : RaceEvent) (after : Race) : Prop :=
  before.step setup event = some after

def Race.after (setup : RaceSetup) (race : Race) (events : List RaceEvent) : Race :=
  events.foldl (fun race event => (race.step setup event).getD race) race

def Race.enabled (setup : RaceSetup) (race : Race) (events : List RaceEvent) : Bool :=
  guarded (fun race event => (race.step setup event).getD race)
    (fun race event => (race.step setup event).isSome) race events

abbrev RaceRun (setup : RaceSetup) (server : Server) : List RaceEvent → Race → Prop :=
  Run (RaceStep setup) (.start server)

def Names (msgId : Text) (packets : List ServerPacket) : Prop :=
  ∃ packet, .chatInfoRq packet ∈ packets ∧ cstr packet.msgId = msgId

instance (msgId : Text) (packets : List ServerPacket) : Decidable (Names msgId packets) :=
  let named := fun packet : ServerPacket =>
    match packet with
    | .chatInfoRq chat => decide (cstr chat.msgId = msgId)
    | _ => false
  decidable_of_iff (packets.any named = true) <| by
    rw [List.any_eq_true]
    constructor
    · rintro ⟨packet, member, same⟩
      cases packet with
      | chatInfoRq chat => exact ⟨chat, member, of_decide_eq_true same⟩
      | _ => exact Bool.noConfusion same
    · rintro ⟨chat, member, same⟩
      exact ⟨.chatInfoRq chat, member, decide_eq_true same⟩

theorem names_append {msgId : Text} {new old : List ServerPacket} :
    Names msgId (new ++ old) ↔ Names msgId new ∨ Names msgId old := by
  simp only [Names, List.mem_append, or_and_right, exists_or]

/-- `after` has more packets on `conn` than `before`, with the message among them
exactly if `named` holds. -/
def Adds (conn : ConnId) (msgId : Text) (before after : Server) (named : Prop) : Prop :=
  ∃ new, after.sentTo conn = new ++ before.sentTo conn ∧ (Names msgId new ↔ named)

namespace Adds

variable {conn : ConnId} {msgId : Text} {first second third : Server}

theorem of_sentTo (same : second.sentTo conn = first.sentTo conn) :
    Adds conn msgId first second False :=
  ⟨[], same, by simp [Names]⟩

theorem trans {named more : Prop} (left : Adds conn msgId first second named)
    (right : Adds conn msgId second third more) : Adds conn msgId first third (named ∨ more) := by
  obtain ⟨old, oldGrown, oldNames⟩ := left
  obtain ⟨new, newGrown, newNames⟩ := right
  refine ⟨new ++ old, by rw [newGrown, oldGrown, List.append_assoc], ?_⟩
  rw [names_append, oldNames, newNames, or_comm]

theorem silent (left : Adds conn msgId first second False)
    (right : Adds conn msgId second third False) : Adds conn msgId first third False := by
  simpa using left.trans right

theorem deliver_other (server : Server) (target : ConnId) {packet : ServerPacket}
    (other : ∀ chat, packet ≠ .chatInfoRq chat) :
    Adds conn msgId server (server.deliver target packet) False := by
  by_cases same : conn = target
  · subst target
    cases live : server.sessions conn with
    | none => exact of_sentTo (by simp [Server.sentTo, Server.deliver, live])
    | some session =>
        refine ⟨[packet], Server.sentTo_deliver_self (by simp [live]) packet, ?_⟩
        simp only [Names, List.mem_singleton, iff_false, not_exists, not_and]
        exact fun chat equal => absurd equal.symm (other chat)
  · exact of_sentTo (Server.sentTo_deliver_other server packet same)

theorem deliver_chat {server : Server} (live : (server.sessions conn).isSome) (target : ConnId)
    (packet : ChatInfoRq) :
    Adds conn msgId server (server.deliver target (.chatInfoRq packet))
      (target = conn ∧ cstr packet.msgId = msgId) := by
  by_cases same : target = conn
  · subst target
    exact ⟨[.chatInfoRq packet], Server.sentTo_deliver_self live _, by simp [Names]⟩
  · refine ⟨[], Server.sentTo_deliver_other server _ (Ne.symm same), ?_⟩
    simp [Names, same]

theorem sendFriendInfo (server : Server) (target : ConnId) (userId status : Int32) :
    Adds conn msgId server (server.sendFriendInfo target userId status) False := by
  unfold Server.sendFriendInfo
  split
  · exact of_sentTo rfl
  · exact deliver_other _ _ (by simp)

theorem announceFriend (target : ConnId) (userId : Int32) (server : Server)
    (friendRecord : UserRecord) :
    Adds conn msgId server (Server.announceFriend target userId server friendRecord) False := by
  unfold Server.announceFriend
  dsimp only
  split
  · exact (sendFriendInfo ..).silent (sendFriendInfo ..)
  · exact sendFriendInfo ..

theorem announce (server : Server) (target : ConnId) (userId : Int32) :
    Adds conn msgId server (server.announce target userId) False := by
  unfold Server.announce
  dsimp only
  refine (sendFriendInfo server target userId statusOnline).silent ?_
  exact foldl_related (fun before after => Adds conn msgId before after False)
    (fun _ => of_sentTo rfl) (fun _ _ _ => silent) _ (announceFriend target userId) _ _

theorem takePlace (now : Int) (server : Server) (target : ConnId) (userId : Int32) :
    Adds conn msgId server (server.takePlace now target userId) False := by
  have replaced : Adds conn msgId server (server.presenceReplace now userId target).2 False :=
    of_sentTo rfl
  unfold Server.takePlace
  dsimp only
  split
  · split
    · rename_i old _ _
      have kicked : Adds conn msgId (server.presenceReplace now userId target).2
          ((server.presenceReplace now userId target).2.deliver old .kickedOffline) False :=
        deliver_other _ _ (by simp)
      refine (replaced.silent kicked).silent (of_sentTo ?_)
      exact Server.sentTo_modify _ _ _ fun _ => rfl
    · exact replaced
  · exact replaced

theorem replayMessage {server : Server} (live : (server.sessions conn).isSome) (userId : Int32)
    (message : StoredMessage Bytes) :
    Adds conn msgId server (Server.replayMessage conn userId server message)
      (cstr message.msgId = msgId) := by
  have handed : Adds conn msgId server (server.deliver conn (.chatInfoRq (fillChatInfo message)))
      (cstr message.msgId = msgId) := by
    have named : (fillChatInfo message).msgId = message.msgId := by
      unfold fillChatInfo
      dsimp only
      split
      · rfl
      · split <;> rfl
    simpa [named] using deliver_chat live conn (fillChatInfo message)
  unfold Server.replayMessage
  dsimp only
  split
  · simpa using handed.trans (deliver_other _ _ (by simp))
  · exact handed

theorem answerChat {server : Server} (live : (server.sessions conn).isSome) (sender : ConnId)
    (draft : ChatDraft) {message : StoredMessage Bytes} (named : cstr message.msgId = msgId)
    (target : Option ConnId) :
    Adds conn msgId server (server.answerChat sender draft message target)
      (target = some conn) := by
  have erased : Adds conn msgId server (server.eraseUploads draft) False :=
    of_sentTo (by simp [Server.sentTo])
  unfold Server.answerChat
  dsimp only
  cases target with
  | none => simpa using erased.silent (deliver_other _ _ (by simp))
  | some target =>
      have kept : ((server.eraseUploads draft).sessions conn).isSome := by simpa using live
      have forwarded := erased.trans
        (deliver_chat kept target (Server.forwarded draft message))
      simpa [Server.forwarded, named] using forwarded.trans (deliver_other _ _ (by simp))

end Adds

/-! What the steps do to the message. -/

namespace RaceSetup

def Waiting (setup : RaceSetup) (messages : MessageTable) : Prop :=
  ∃ row ∈ messages.rows, row.columns.msgId = setup.msgId ∧
    row.columns.receiverId = setup.userId ∧ row.isDelivered = false

def Known (setup : RaceSetup) (messages : MessageTable) : Prop :=
  ∃ row ∈ messages.rows, row.columns.msgId = setup.msgId

def Among (setup : RaceSetup) (pulled : List (StoredMessage Bytes)) : Prop :=
  ∃ message ∈ pulled, cstr message.msgId = setup.msgId

variable {setup : RaceSetup}

theorem among_pulled (setup : RaceSetup) (messages : MessageTable) :
    setup.Among (messages.pullUndelivered setup.userId) ↔ setup.Waiting messages := by
  have name (row : MessageRow) : cstr (readMessageRow row).msgId = row.columns.msgId :=
    cstr_text row.columns.msgId
  simp only [Among, Waiting, MessageTable.pullUndelivered, MessageTable.undelivered, List.mem_map,
    List.mem_insertionSort, List.mem_filter, decide_eq_true_eq, exists_exists_and_eq_and, name]
  constructor
  · rintro ⟨row, ⟨stored, receiver, undelivered⟩, same⟩
    exact ⟨row, stored, same, receiver, undelivered⟩
  · rintro ⟨row, stored, same, receiver, undelivered⟩
    exact ⟨row, ⟨stored, receiver, undelivered⟩, same⟩

theorem known_iff (setup : RaceSetup) (messages : MessageTable) :
    setup.Known messages ↔ messages.findByMsgId setup.draft.message.msgId ≠ none := by
  constructor
  · rintro ⟨row, stored, same⟩
    rw [MessageTable.findByMsgId_of_stored stored same]
    simp
  · intro found
    obtain ⟨row, located⟩ := Option.ne_none_iff_exists'.mp found
    exact ⟨row, MessageTable.findByMsgId_eq_some located⟩

theorem saved_waiting {writes : Nat → Bool} {messages after : MessageTable} {delivered : Bool}
    {message : StoredMessage Bytes}
    (receiver : setup.draft.message.receiverId = setup.userId)
    (saved : messages.saveMessage writes setup.draft.message delivered = (true, message, after)) :
    cstr message.msgId = setup.msgId ∧
      (setup.Waiting after ↔
        setup.Waiting messages ∨ (¬ setup.Known messages ∧ delivered = false)) := by
  rcases messages.saveMessage_cases writes setup.draft.message delivered with
    ⟨failed, _⟩ | ⟨row, found, readBack⟩ | ⟨next, missing, fresh, rows, _⟩
  · simp [saved] at failed
  · obtain ⟨_, rfl, rfl⟩ : true = true ∧ _ = message ∧ _ = after := by
      simpa using readBack.symm.trans saved
    have known : setup.Known messages := (known_iff setup messages).mpr (by simp [found])
    exact ⟨rfl, by simp [known]⟩
  · obtain ⟨_, rfl, rfl⟩ : true = true ∧ _ = message ∧ _ = after := by
      simpa using fresh.symm.trans saved
    have unknown : ¬ setup.Known messages := by
      rw [known_iff, missing]
      simp
    refine ⟨rfl, ?_⟩
    simp only [Waiting, rows, List.mem_append, List.mem_singleton, unknown, not_false_eq_true,
      true_and]
    constructor
    · rintro ⟨row, stored | rfl, facts⟩
      · exact .inl ⟨row, stored, facts⟩
      · exact .inr facts.2.2
    · rintro (⟨row, stored, facts⟩ | undelivered)
      · exact ⟨row, .inl stored, facts⟩
      · exact ⟨_, .inr rfl, rfl, receiver, undelivered⟩

theorem known_marked (setup : RaceSetup) (writes : Nat → Bool) (messages : MessageTable)
    (msgIds : List Bytes) :
    setup.Known (messages.markDelivered writes msgIds) ↔ setup.Known messages := by
  have ids (messages : MessageTable) : setup.Known messages ↔
      setup.msgId ∈ messages.rows.map (·.columns.msgId) := by
    simp only [Known, List.mem_map]
  have kept (messages : MessageTable) (msgId : Bytes) :
      (messages.setDelivered msgId).rows.map (·.columns.msgId) =
        messages.rows.map (·.columns.msgId) := by
    simp only [MessageTable.setDelivered, MessageTable.rows, Table.rewrite_rows, List.map_map]
    refine List.map_congr_left ?_
    intro row _
    simp only [Function.comp_apply]
    split <;> rfl
  rw [ids, ids]
  unfold MessageTable.markDelivered
  split
  · rw [foldl_view (fun messages : MessageTable => messages.rows.map (·.columns.msgId))]
    intro messages entry
    split
    · exact kept messages entry.1
    · rfl
  · rfl

end RaceSetup

/-! What the steps do to `Presence`. -/

namespace Server

def liveness (server : Server) : Presence × (ConnId → Option Bool) :=
  (server.presence, fun conn => (server.sessions conn).map (·.destroyed))

theorem lock_of_liveness {first second : Server} (same : first.liveness = second.liveness)
    (conn : ConnId) : first.lock conn = second.lock conn := by
  have destroyed := congrArg (Option.any not) (congrFun (congrArg Prod.snd same) conn)
  simp only [liveness, Option.any_map] at destroyed
  exact congrArg (fun alive : Bool => if alive then some conn else none) destroyed

theorem presenceGet_of_liveness {first second : Server} (same : first.liveness = second.liveness)
    (userId : Int32) : first.presenceGet userId = second.presenceGet userId := by
  have presence : first.presence = second.presence := congrArg Prod.fst same
  unfold presenceGet
  rw [presence]
  exact congrArg (Option.bind _) (funext fun entry => lock_of_liveness same entry.sess)

@[simp] theorem deliver_liveness (server : Server) (conn : ConnId) (packet : ServerPacket) :
    (server.deliver conn packet).liveness = server.liveness :=
  Prod.ext rfl (funext fun other => server.modify_map conn other (·.destroyed) fun _ => rfl)

@[simp] theorem close_liveness (server : Server) (conn : ConnId) :
    (server.close conn).liveness = server.liveness :=
  Prod.ext rfl (funext fun other => server.modify_map conn other (·.destroyed) fun _ => rfl)

@[simp] theorem answerChat_liveness (server : Server) (conn : ConnId) (draft : ChatDraft)
    (message : StoredMessage Bytes) (target : Option ConnId) :
    (server.answerChat conn draft message target).liveness = server.liveness := by
  have erased : (server.eraseUploads draft).liveness = server.liveness := by
    unfold eraseUploads
    split
    · cases draft.hasThumbnail <;> cases draft.hasLargeThumbnail <;> rfl
    · rfl
  unfold answerChat
  cases target <;> simp [erased]

theorem takePlace_liveness (now : Int) (server : Server) (conn : ConnId) (userId : Int32) :
    (server.takePlace now conn userId).liveness =
      (Function.update server.presence userId (some ⟨conn, now⟩),
        fun conn => (server.sessions conn).map (·.destroyed)) := by
  unfold takePlace
  dsimp only
  split
  · split
    · simp only [closeAfterWrite, close_liveness, deliver_liveness]
      rfl
    · rfl
  · rfl

theorem takePlace_registers (now : Int) {server : Server} {conn : ConnId} (userId : Int32)
    (alive : server.lock conn = some conn) :
    (server.takePlace now conn userId).lock conn = some conn ∧
      (server.takePlace now conn userId).presenceGet userId = some conn := by
  have lock : (server.takePlace now conn userId).lock conn = some conn := by
    have destroyed := congrArg (Option.any not)
      (congrFun (congrArg Prod.snd (takePlace_liveness now server conn userId)) conn)
    simp only [liveness, Option.any_map] at destroyed
    exact (congrArg (fun alive : Bool => if alive then some conn else none) destroyed).trans alive
  have presence : (server.takePlace now conn userId).presence userId = some ⟨conn, now⟩ := by
    have updated := congrFun (congrArg Prod.fst (takePlace_liveness now server conn userId)) userId
    exact updated.trans (Function.update_self ..)
  refine ⟨lock, ?_⟩
  rw [presenceGet, presence]
  exact lock

end Server

/-! The invariant of the race. -/

def ChatStage.storedFor : ChatStage → Option (Option ConnId)
  | saved target _ | answered target _ => some target
  | _ => none

def ChatStage.target : ChatStage → Option (Option ConnId)
  | looked target | saved target _ | answered target _ => some target
  | _ => none

def ChatStage.message : ChatStage → Option (StoredMessage Bytes)
  | saved _ message | answered _ message => some message
  | _ => none

def ChatStage.beforeSave : ChatStage → Bool
  | checked | looked _ => true
  | _ => false

def ChatStage.handedTo : ChatStage → Option ConnId
  | answered target _ => target
  | _ => none

def LoginStage.pulled : LoginStage → Option (List (StoredMessage Bytes))
  | replaying delivered remaining => some (delivered ++ remaining)
  | marked delivered => some delivered
  | _ => none

def LoginStage.replayed : LoginStage → List (StoredMessage Bytes)
  | replaying delivered _ | marked delivered => delivered
  | _ => []

structure RaceInvariant (setup : RaceSetup) (server : Server) (events : List RaceEvent)
    (race : Race) : Prop where
  alive : race.server.lock setup.conn = some setup.conn
  registered : race.login = .bound ∨ .register ∈ events
  presence : race.server.presenceGet setup.userId =
    if .register ∈ events then some setup.conn else server.presenceGet setup.userId
  unlooked : race.chat = .checked → .look ∉ events
  target : ∀ target, race.chat.target = some target → target =
    if Precedes .register .look events then some setup.conn else server.presenceGet setup.userId
  unsaved : race.chat.beforeSave = true → .save ∉ events
  saved : ∀ target, race.chat.storedFor = some target → .save ∈ events
  message : ∀ message, race.chat.message = some message → cstr message.msgId = setup.msgId
  known : race.chat.beforeSave = true →
    (setup.Known race.server.messages ↔ setup.Known server.messages)
  unpulled : race.login.pulled = none → .pull ∉ events
  waiting : race.login.pulled = none →
    (setup.Waiting race.server.messages ↔ setup.Waiting server.messages ∨
      (¬ setup.Known server.messages ∧ race.chat.storedFor = some none))
  pulled : ∀ pulled, race.login.pulled = some pulled →
    (setup.Among pulled ↔ setup.Waiting server.messages ∨
      (¬ setup.Known server.messages ∧ race.chat.storedFor = some none ∧
        Precedes .save .pull events))
  handed : Adds setup.conn setup.msgId server race.server
    (race.chat.handedTo = some setup.conn ∨ setup.Among race.login.replayed)

namespace RaceInvariant

variable {setup : RaceSetup} {server : Server} {events : List RaceEvent} {race : Race}

theorem initial (alive : server.lock setup.conn = some setup.conn) :
    RaceInvariant setup server [] (.start server) where
  alive := alive
  registered := .inl rfl
  presence := by simp [Race.start]
  unlooked := by simp
  target := by simp [Race.start, ChatStage.target]
  unsaved := by simp
  saved := by simp [Race.start, ChatStage.storedFor]
  message := by simp [Race.start, ChatStage.message]
  known := by simp [Race.start]
  unpulled := by simp
  waiting := by simp [Race.start, ChatStage.storedFor]
  pulled := by simp [Race.start, LoginStage.pulled]
  handed := by
    have silent : Adds setup.conn setup.msgId server server False := .of_sentTo rfl
    simpa [Race.start, ChatStage.handedTo, LoginStage.replayed, RaceSetup.Among] using silent

theorem look (invariant : RaceInvariant setup server events race) (stage : race.chat = .checked) :
    RaceInvariant setup server (events ++ [.look])
      { race with chat := .looked (race.server.presenceGet setup.userId) } := by
  have unlooked := invariant.unlooked stage
  have first : ¬ Precedes .register .look events := fun precedes => unlooked precedes.mem.2
  exact {
    alive := invariant.alive
    registered := by simpa using invariant.registered
    presence := by simpa using invariant.presence
    unlooked := by simp
    target := by
      rintro target ⟨⟩
      simpa [precedes_snoc, first] using invariant.presence
    unsaved := by simpa [stage, ChatStage.beforeSave] using invariant.unsaved
    saved := by simp [ChatStage.storedFor]
    message := by simp [ChatStage.message]
    known := by simpa [stage, ChatStage.beforeSave] using invariant.known
    unpulled := by simpa using invariant.unpulled
    waiting := by simpa [stage, ChatStage.storedFor] using invariant.waiting
    pulled := by simpa [stage, ChatStage.storedFor] using invariant.pulled
    handed := by simpa [stage, ChatStage.handedTo] using invariant.handed }

theorem save_done (invariant : RaceInvariant setup server events race)
    {target : Option ConnId} {message : StoredMessage Bytes} {messages : MessageTable}
    (receiver : setup.draft.message.receiverId = setup.userId)
    (stage : race.chat = .looked target)
    (saved : race.server.messages.saveMessage setup.chatEnv.writes setup.draft.message
      target.isSome = (true, message, messages)) :
    RaceInvariant setup server (events ++ [.save])
      ⟨{ race.server with messages }, .saved target message, race.login⟩ := by
  obtain ⟨named, waiting⟩ := RaceSetup.saved_waiting receiver saved
  have unsaved := invariant.unsaved (by rw [stage]; rfl)
  have late : ¬ Precedes .save .pull events := fun precedes => unsaved precedes.mem.1
  exact {
    alive := invariant.alive
    registered := by simpa using invariant.registered
    presence := by
      change race.server.presenceGet setup.userId = _
      simpa using invariant.presence
    unlooked := by simp
    target := by
      rintro target ⟨⟩
      simpa [precedes_snoc] using invariant.target _ (by rw [stage]; rfl)
    unsaved := by simp [ChatStage.beforeSave]
    saved := by simp
    message := by
      rintro message ⟨⟩
      exact named
    known := by simp [ChatStage.beforeSave]
    unpulled := by simpa using invariant.unpulled
    waiting := by
      intro unpulled
      have before := invariant.waiting unpulled
      have known := invariant.known (by rw [stage]; rfl)
      simp only [stage, ChatStage.storedFor, reduceCtorEq, and_false, or_false] at before
      rw [waiting, before, known]
      simp [ChatStage.storedFor]
    pulled := by
      intro pulled done
      have before := invariant.pulled pulled done
      simpa [stage, ChatStage.storedFor, precedes_snoc, late] using before
    handed := by
      have silent : Adds setup.conn setup.msgId race.server { race.server with messages } False :=
        .of_sentTo rfl
      simpa [stage, ChatStage.handedTo] using invariant.handed.trans silent }

theorem save_failed (invariant : RaceInvariant setup server events race)
    {target : Option ConnId} (stage : race.chat = .looked target) :
    RaceInvariant setup server (events ++ [.save]) { race with chat := .unsaved } := by
  have unsaved := invariant.unsaved (by rw [stage]; rfl)
  exact {
    alive := invariant.alive
    registered := by simpa using invariant.registered
    presence := by simpa using invariant.presence
    unlooked := by simp
    target := by simp [ChatStage.target]
    unsaved := by simp [ChatStage.beforeSave]
    saved := by simp
    message := by simp [ChatStage.message]
    known := by simp [ChatStage.beforeSave]
    unpulled := by simpa using invariant.unpulled
    waiting := by simpa [stage, ChatStage.storedFor] using invariant.waiting
    pulled := by simpa [stage, ChatStage.storedFor] using invariant.pulled
    handed := by simpa [stage, ChatStage.handedTo] using invariant.handed }

theorem answer_done (invariant : RaceInvariant setup server events race)
    {target : Option ConnId} {message : StoredMessage Bytes}
    (stage : race.chat = .saved target message) :
    RaceInvariant setup server (events ++ [.answer])
      { race with
        server := race.server.answerChat setup.sender setup.draft message target
        chat := .answered target message } := by
  have liveness := race.server.answerChat_liveness setup.sender setup.draft message target
  have messages := race.server.answerChat_messages setup.sender setup.draft message target
  have named := invariant.message message (by rw [stage]; rfl)
  exact {
    alive := (Server.lock_of_liveness liveness _).trans invariant.alive
    registered := by simpa using invariant.registered
    presence := by
      rw [Server.presenceGet_of_liveness liveness]
      simpa using invariant.presence
    unlooked := by simp
    target := by simpa [stage, ChatStage.target, precedes_snoc] using invariant.target
    unsaved := by simp [ChatStage.beforeSave]
    saved := by simpa [stage, ChatStage.storedFor] using invariant.saved
    message := by simpa [stage, ChatStage.message] using invariant.message
    known := by simp [ChatStage.beforeSave]
    unpulled := by simpa using invariant.unpulled
    waiting := by simpa [stage, ChatStage.storedFor, messages] using invariant.waiting
    pulled := by
      simpa [stage, ChatStage.storedFor, precedes_snoc] using invariant.pulled
    handed := by
      have forwarded := Adds.answerChat (Server.isSome_of_lock invariant.alive) setup.sender
        setup.draft named target
      have both := invariant.handed.trans forwarded
      simpa [stage, ChatStage.handedTo, or_comm] using both }

theorem answer_refused (invariant : RaceInvariant setup server events race)
    (stage : race.chat = .unsaved) :
    RaceInvariant setup server (events ++ [.answer])
      { race with
        server := race.server.deliverFailure setup.sender setup.draft.rq chatResultServerError
        chat := .refused } := by
  have liveness : (race.server.deliverFailure setup.sender setup.draft.rq
      chatResultServerError).liveness = race.server.liveness := Server.deliver_liveness ..
  exact {
    alive := (Server.lock_of_liveness liveness _).trans invariant.alive
    registered := by simpa using invariant.registered
    presence := by
      rw [Server.presenceGet_of_liveness liveness]
      simpa using invariant.presence
    unlooked := by simp
    target := by simp [ChatStage.target]
    unsaved := by simp [ChatStage.beforeSave]
    saved := by simp [ChatStage.storedFor]
    message := by simp [ChatStage.message]
    known := by simp [ChatStage.beforeSave]
    unpulled := by simpa using invariant.unpulled
    waiting := by
      change race.login.pulled = none → (setup.Waiting race.server.messages ↔ _)
      simpa [stage, ChatStage.storedFor] using invariant.waiting
    pulled := by simpa [stage, ChatStage.storedFor] using invariant.pulled
    handed := by
      have silent : Adds setup.conn setup.msgId race.server
          (race.server.deliverFailure setup.sender setup.draft.rq chatResultServerError) False :=
        Adds.deliver_other _ _ (by simp)
      simpa [stage, ChatStage.handedTo] using invariant.handed.trans silent }

theorem register (invariant : RaceInvariant setup server events race)
    (stage : race.login = .bound) :
    RaceInvariant setup server (events ++ [.register])
      { race with
        server := race.server.takePlace setup.loginEnv.now setup.conn setup.userId
        login := .registered } := by
  have registers := Server.takePlace_registers setup.loginEnv.now setup.userId invariant.alive
  have messages : (race.server.takePlace setup.loginEnv.now setup.conn setup.userId).messages =
      race.server.messages := by
    unfold Server.takePlace
    dsimp only
    split
    · split <;> rfl
    · rfl
  exact {
    alive := registers.1
    registered := by simp
    presence := by simpa using registers.2
    unlooked := by simpa using invariant.unlooked
    target := by simpa [precedes_snoc] using invariant.target
    unsaved := by simpa using invariant.unsaved
    saved := by simpa using invariant.saved
    message := invariant.message
    known := by simpa [messages] using invariant.known
    unpulled := by simpa [stage, LoginStage.pulled] using invariant.unpulled
    waiting := by simpa [stage, LoginStage.pulled, messages] using invariant.waiting
    pulled := by simp [LoginStage.pulled]
    handed := by
      have both := invariant.handed.trans
        (Adds.takePlace setup.loginEnv.now race.server setup.conn setup.userId)
      simpa [stage, LoginStage.replayed] using both }

theorem announce (invariant : RaceInvariant setup server events race)
    (stage : race.login = .registered) :
    RaceInvariant setup server (events ++ [.announce])
      { race with
        server := race.server.announce setup.conn setup.userId
        login := .announced } := by
  have liveness : (race.server.announce setup.conn setup.userId).liveness = race.server.liveness :=
    Server.announce_view Server.liveness Server.deliver_liveness ..
  have messages : (race.server.announce setup.conn setup.userId).messages = race.server.messages :=
    Server.announce_view Server.messages (fun _ _ _ => rfl) ..
  exact {
    alive := (Server.lock_of_liveness liveness _).trans invariant.alive
    registered := by simpa [stage] using invariant.registered
    presence := by
      rw [Server.presenceGet_of_liveness liveness]
      simpa using invariant.presence
    unlooked := by simpa using invariant.unlooked
    target := by simpa [precedes_snoc] using invariant.target
    unsaved := by simpa using invariant.unsaved
    saved := by simpa using invariant.saved
    message := invariant.message
    known := by simpa [messages] using invariant.known
    unpulled := by simpa [stage, LoginStage.pulled] using invariant.unpulled
    waiting := by simpa [stage, LoginStage.pulled, messages] using invariant.waiting
    pulled := by simp [LoginStage.pulled]
    handed := by
      have both := invariant.handed.trans (Adds.announce race.server setup.conn setup.userId)
      simpa [stage, LoginStage.replayed] using both }

theorem pull (invariant : RaceInvariant setup server events race)
    (stage : race.login = .announced) :
    RaceInvariant setup server (events ++ [.pull])
      { race with
        login := .replaying [] (race.server.messages.pullUndelivered setup.userId) } := by
  have unpulled := invariant.unpulled (by rw [stage]; rfl)
  have first : ¬ Precedes .save .pull events := fun precedes => unpulled precedes.mem.2
  have waiting := invariant.waiting (by rw [stage]; rfl)
  exact {
    alive := invariant.alive
    registered := by simpa [stage] using invariant.registered
    presence := by simpa using invariant.presence
    unlooked := by simpa using invariant.unlooked
    target := by simpa [precedes_snoc] using invariant.target
    unsaved := by simpa using invariant.unsaved
    saved := by simpa using invariant.saved
    message := invariant.message
    known := invariant.known
    unpulled := by simp [LoginStage.pulled]
    waiting := by simp [LoginStage.pulled]
    pulled := by
      rintro pulled ⟨⟩
      rw [List.nil_append, RaceSetup.among_pulled, waiting]
      have stored : race.chat.storedFor = some none ↔
          race.chat.storedFor = some none ∧ .save ∈ events :=
        ⟨fun stored => ⟨stored, invariant.saved _ stored⟩, fun both => both.1⟩
      rw [stored]
      simp [precedes_snoc, first]
    handed := by
      simpa [stage, LoginStage.replayed, RaceSetup.Among] using invariant.handed }

theorem replay (invariant : RaceInvariant setup server events race)
    {delivered remaining : List (StoredMessage Bytes)} {message : StoredMessage Bytes}
    (stage : race.login = .replaying delivered (message :: remaining)) :
    RaceInvariant setup server (events ++ [.replay])
      { race with
        server := Server.replayMessage setup.conn setup.userId race.server message
        login := .replaying (delivered ++ [message]) remaining } := by
  have liveness : (Server.replayMessage setup.conn setup.userId race.server message).liveness =
      race.server.liveness := Server.replayMessage_view Server.liveness Server.deliver_liveness ..
  have messages : (Server.replayMessage setup.conn setup.userId race.server message).messages =
      race.server.messages :=
    Server.replayMessage_view Server.messages (fun _ _ _ => rfl) ..
  exact {
    alive := (Server.lock_of_liveness liveness _).trans invariant.alive
    registered := by simpa [stage] using invariant.registered
    presence := by
      rw [Server.presenceGet_of_liveness liveness]
      simpa using invariant.presence
    unlooked := by simpa using invariant.unlooked
    target := by simpa [precedes_snoc] using invariant.target
    unsaved := by simpa using invariant.unsaved
    saved := by simpa using invariant.saved
    message := invariant.message
    known := by simpa [messages] using invariant.known
    unpulled := by simp [LoginStage.pulled]
    waiting := by simp [LoginStage.pulled]
    pulled := by
      simpa [stage, LoginStage.pulled, precedes_snoc] using invariant.pulled
    handed := by
      have replayed : Adds setup.conn setup.msgId race.server _ _ :=
        Adds.replayMessage (Server.isSome_of_lock invariant.alive) setup.userId message
      have both := invariant.handed.trans replayed
      simpa [stage, LoginStage.replayed, RaceSetup.Among, or_and_right, exists_or, or_assoc]
        using both }

theorem mark (invariant : RaceInvariant setup server events race)
    {delivered : List (StoredMessage Bytes)} (stage : race.login = .replaying delivered []) :
    RaceInvariant setup server (events ++ [.mark])
      { race with
        server := race.server.markDelivered setup.loginEnv.writes delivered
        login := .marked delivered } := by
  exact {
    alive := invariant.alive
    registered := by simpa [stage] using invariant.registered
    presence := by
      change race.server.presenceGet setup.userId = _
      simpa using invariant.presence
    unlooked := by simpa using invariant.unlooked
    target := by simpa [precedes_snoc] using invariant.target
    unsaved := by simpa using invariant.unsaved
    saved := by simpa using invariant.saved
    message := invariant.message
    known := by
      intro before
      exact (RaceSetup.known_marked setup _ _ _).trans (invariant.known before)
    unpulled := by simp [LoginStage.pulled]
    waiting := by simp [LoginStage.pulled]
    pulled := by simpa [stage, LoginStage.pulled, precedes_snoc] using invariant.pulled
    handed := by
      have silent : Adds setup.conn setup.msgId race.server
          (race.server.markDelivered setup.loginEnv.writes delivered) False := .of_sentTo rfl
      simpa [stage, LoginStage.replayed] using invariant.handed.trans silent }

end RaceInvariant

theorem RaceInvariant.step {setup : RaceSetup} {server : Server} {events : List RaceEvent}
    {before after : Race} {event : RaceEvent}
    (receiver : setup.draft.message.receiverId = setup.userId)
    (invariant : RaceInvariant setup server events before)
    (taken : RaceStep setup before event after) :
    RaceInvariant setup server (events ++ [event]) after := by
  cases event with
  | look =>
      simp only [RaceStep, Race.step] at taken
      split at taken
      · rename_i stage
        obtain rfl := Option.some.inj taken
        exact invariant.look stage
      · simp at taken
  | save =>
      simp only [RaceStep, Race.step] at taken
      split at taken
      · rename_i target stage
        split at taken
        · rename_i message saved stored
          obtain rfl := Option.some.inj taken
          obtain ⟨messages, result, rfl⟩ := Server.saveChat_eq_true stored
          exact invariant.save_done receiver stage result
        · rename_i message unsaved failed
          obtain rfl := Option.some.inj taken
          obtain rfl := Server.saveChat_eq_false failed
          exact invariant.save_failed stage
      · simp at taken
  | answer =>
      simp only [RaceStep, Race.step] at taken
      split at taken
      · rename_i target message stage
        obtain rfl := Option.some.inj taken
        exact invariant.answer_done stage
      · rename_i stage
        obtain rfl := Option.some.inj taken
        exact invariant.answer_refused stage
      · simp at taken
  | register =>
      simp only [RaceStep, Race.step] at taken
      split at taken
      · rename_i stage
        obtain rfl := Option.some.inj taken
        exact invariant.register stage
      · simp at taken
  | announce =>
      simp only [RaceStep, Race.step] at taken
      split at taken
      · rename_i stage
        obtain rfl := Option.some.inj taken
        exact invariant.announce stage
      · simp at taken
  | pull =>
      simp only [RaceStep, Race.step] at taken
      split at taken
      · rename_i stage
        obtain rfl := Option.some.inj taken
        exact invariant.pull stage
      · simp at taken
  | replay =>
      simp only [RaceStep, Race.step] at taken
      split at taken
      · rename_i delivered message remaining stage
        obtain rfl := Option.some.inj taken
        exact invariant.replay stage
      · simp at taken
  | mark =>
      simp only [RaceStep, Race.step] at taken
      split at taken
      · rename_i delivered stage
        obtain rfl := Option.some.inj taken
        exact invariant.mark stage
      · simp at taken

theorem RaceRun.invariant {setup : RaceSetup} {server : Server} {events : List RaceEvent}
    {final : Race} (receiver : setup.draft.message.receiverId = setup.userId)
    (alive : server.lock setup.conn = some setup.conn) (run : RaceRun setup server events final) :
    RaceInvariant setup server events final :=
  run.traced (RaceInvariant.initial alive) fun _ _ _ _ invariant taken =>
    invariant.step receiver taken

end Jitong
