import Jitong.AiContextBuilder
import Jitong.AiRequestLimiter
import Jitong.ChatStored
import Jitong.FriendRequests
import Jitong.Lib.Fields
import Jitong.Lib.Since
import Jitong.RoamHandler

/-!
`handlers/AiHandler.cpp`: a request for suggested replies from the checks of `onReply` to the end of
the posted work, the threads of all users in any order. `Server` is what a step finds of the rest of
the server, and `generated` what the model client returns.
-/

namespace Jitong

open Lib ClientCore

inductive AiReplyStatus
  | ok
  | invalidRequest
  | unauthorized
  | notFriend
  | rateLimited
  | busy
  | notConfigured
  | upstreamError
  deriving DecidableEq

structure AiReplyRq where
  requestId : Bytes := []
  peerId : Int32 := 0
  tone : Bytes := []
  maxSuggestions : Int32 := 0

structure AiReplyRs where
  requestId : Bytes
  status : AiReplyStatus
  suggestions : List Bytes
  errorMessage : String
  done : Bool
  deriving DecidableEq

inductive AiError
  | none
  | notConfigured
  | network
  | timeout
  | unauthorized
  | rateLimited
  | service
  | invalidResponse
  deriving DecidableEq

structure AiReplyResult where
  error : AiError := .none
  suggestions : List Bytes := []
  latencyMs : Int := 0
  deriving DecidableEq

def AiReplyResult.ok (result : AiReplyResult) : Bool := result.error = .none

structure AiConfig where
  featureEnabled : Bool := true
  rolloutPercent : Int32 := 100
  apiKey : Bytes := []
  model : Bytes := []
  maxContextMessages : Int32 := 20
  maxContextBytes : Int32 := 12000
  maxMessageBytes : Int32 := 2000
  rateLimitPerMinute : Int32 := 5
  maxPendingRequests : Int32 := 8
  replayWindowSeconds : Int32 := 300

def AiConfig.enabled (config : AiConfig) : Bool :=
  config.featureEnabled && config.apiKey ≠ [] && config.model ≠ []

def AiConfig.policy (config : AiConfig) : AiContextPolicy :=
  ⟨config.maxContextMessages, config.maxMessageBytes, config.maxContextBytes⟩

/-- Where the thread of an accepted request is; `finishing` and `releasing` are the two locks that
`finishRequest` takes. -/
inductive AiTask.Stage
  | accepted
  | posted
  | reading
  | built (request : AiReplyRequest)
  | asking
  | answered (result : AiReplyResult)
  | confirmed (result : AiReplyResult)
  | finishing
  | releasing
  deriving DecidableEq

structure AiTask where
  weakSession : Option ConnId
  userId : Int32
  peerId : Int32
  requestId : Bytes
  tone : Bytes
  maxSuggestions : Int32
  stage : AiTask.Stage := .accepted
  deriving DecidableEq

structure AiMetrics where
  accepted : UInt64 := 0
  succeeded : UInt64 := 0
  failed : UInt64 := 0
  rejected : UInt64 := 0
  cancelled : UInt64 := 0
  totalLatencyMs : UInt64 := 0

/-- `sent` is what `sendResult` delivered, the newest first. -/
structure AiHandler where
  config : AiConfig
  limiter : AiRequestLimiter
  activeRequests : Finset Bytes := ∅
  cancelledRequests : Finset Bytes := ∅
  metrics : AiMetrics := {}
  tasks : List AiTask := []
  sent : List (ConnId × AiReplyRs) := []

namespace AiHandler

def create (config : AiConfig) : AiHandler where
  config
  limiter := .create config.rateLimitPerMinute config.maxPendingRequests config.replayWindowSeconds

def requestKey (userId : Int32) (requestId : Bytes) : Bytes :=
  decimal userId.toInt ++ 0x3A :: requestId

end AiHandler

namespace AiTask

def key (task : AiTask) : Bytes := AiHandler.requestKey task.userId task.requestId

def Stage.listed : Stage → Bool
  | accepted | releasing => false
  | _ => true

def Stage.rank : Stage → Nat
  | accepted => 9
  | posted => 8
  | reading => 7
  | built _ => 6
  | asking => 5
  | answered _ => 4
  | confirmed _ => 3
  | finishing => 2
  | releasing => 1

theorem Stage.rank_pos (stage : Stage) : 0 < stage.rank := by
  cases stage <;> simp [rank]

theorem Stage.rank_le (stage : Stage) : stage.rank ≤ 9 := by
  cases stage <;> simp [rank]

theorem Stage.listed_of_lower {stage following : Stage} (opened : stage ≠ .accepted)
    (lower : following.rank < stage.rank) : stage.listed = true := by
  have some := following.rank_pos
  cases stage with
  | accepted => exact absurd rfl opened
  | releasing =>
      change following.rank < 1 at lower
      omega
  | _ => rfl

end AiTask

namespace AiHandler

def userOf (server : Server) (session : Option ConnId) : Int32 :=
  (((session.bind server.sessions).map fun session => session.userId)).getD 0

def sendResult (session : Option ConnId) (requestId : Bytes) (status : AiReplyStatus)
    (error : String) (suggestions : List Bytes) (handler : AiHandler) : AiHandler :=
  match session with
  | none => handler
  | some conn =>
      { handler with sent := (conn, ⟨requestId, status, suggestions, error, true⟩) :: handler.sent }

def mapError : AiError → AiReplyStatus
  | .notConfigured => .notConfigured
  | .rateLimited => .rateLimited
  | .none => .ok
  | _ => .upstreamError

def markCancelled (userId : Int32) (requestId : Bytes) (handler : AiHandler) : Bool × AiHandler :=
  let key := requestKey userId requestId
  if key ∉ handler.activeRequests then (false, handler)
  else (true, { handler with cancelledRequests := insert key handler.cancelledRequests })

def isCancelled (userId : Int32) (requestId : Bytes) (handler : AiHandler) : Bool :=
  requestKey userId requestId ∈ handler.cancelledRequests

def onCancel (server : Server) (session : Option ConnId) (payload : Option Bytes)
    (handler : AiHandler) : AiHandler :=
  let userId := userOf server session
  match payload with
  | none => handler
  | some requestId =>
      if userId ≤ 0 ∨ requestId = [] ∨ 64 < requestId.length then handler
      else
        match handler.markCancelled userId requestId with
        | (true, handler) =>
            { handler with
              metrics := { handler.metrics with cancelled := handler.metrics.cancelled + 1 } }
        | (false, handler) => handler

def reject (session : Option ConnId) (requestId : Bytes) (status : AiReplyStatus) (error : String)
    (handler : AiHandler) : AiHandler :=
  { handler with
    metrics := { handler.metrics with rejected := handler.metrics.rejected + 1 } }.sendResult
      session requestId status error []

def rolloutBucket (userId : Int32) : UInt32 := userId.toUInt32 * 2654435761 % 100

def onReply (server : Server) (session : Option ConnId) (payload : Option AiReplyRq) (now : Int)
    (handler : AiHandler) : AiHandler :=
  match payload with
  | none => handler.sendResult session [] .invalidRequest "请求格式错误" []
  | some request =>
      let userId := userOf server session
      if userId ≤ 0 then handler.reject session request.requestId .unauthorized "请先登录"
      else if request.requestId = [] ∨ 64 < request.requestId.length ∨ request.peerId ≤ 0 ∨
          request.peerId = userId ∨ 32 < request.tone.length ∨ request.maxSuggestions < 0 ∨
          3 < request.maxSuggestions then
        handler.reject session request.requestId .invalidRequest "请求参数无效"
      else if !handler.config.featureEnabled ∨
          handler.config.rolloutPercent.toUInt32 ≤ rolloutBucket userId then
        handler.reject session request.requestId .notConfigured "AI 功能暂未开放"
      else if !server.isFriend userId request.peerId then
        handler.reject session request.requestId .notFriend "只能分析好友会话"
      else if !handler.config.enabled then
        handler.reject session request.requestId .notConfigured "AI 服务未配置"
      else
        match handler.limiter.tryAcquire userId request.requestId now with
        | (.accepted, limiter) =>
            { handler with
              limiter
              metrics := { handler.metrics with accepted := handler.metrics.accepted + 1 }
              tasks := {
                weakSession := session
                userId
                peerId := request.peerId
                requestId := request.requestId
                tone :=
                  if request.tone = [] then Utf8.encode "自然、简洁".toList else request.tone
                maxSuggestions :=
                  if request.maxSuggestions = 0 then 3 else request.maxSuggestions
              } :: handler.tasks }
        | (.duplicate, limiter) =>
            { handler with limiter }.reject session request.requestId .invalidRequest
              "重复的 AI 请求"
        | (.rateLimited, limiter) =>
            { handler with limiter }.reject session request.requestId .rateLimited
              "请求过于频繁，请稍后再试"
        | (.queueFull, limiter) =>
            { handler with limiter }.reject session request.requestId .busy
              "AI 服务繁忙，请稍后再试"
        | (.busy, limiter) =>
            { handler with limiter }.reject session request.requestId .busy
              "已有 AI 请求正在处理"

/-! The posted work, from one look at what is shared to the next. -/

def resume (task : AiTask) (stage : AiTask.Stage) (handler : AiHandler) : AiHandler :=
  { handler with tasks := { task with stage } :: handler.tasks.erase task }

/-- `weakSession.lock()`, and the session is still the user's. -/
def current (server : Server) (task : AiTask) : Bool :=
  (task.weakSession.bind server.lock).isSome && userOf server task.weakSession = task.userId

def fetchLimit (config : AiConfig) : Nat := (min 100 (config.maxContextMessages.toInt * 3)).toNat

def safeSuggestions (suggestions : List Bytes) : List Bytes :=
  suggestions.foldl (fun safe suggestion =>
    let text := utf8Truncate suggestion 240
    if text ≠ [] ∧ safe.length < 3 then safe ++ [text] else safe) []

def countLatency (result : AiReplyResult) (metrics : AiMetrics) : AiMetrics :=
  { metrics with
    totalLatencyMs := metrics.totalLatencyMs + UInt64.ofNat (max result.latencyMs 0).toNat }

def conclude (task : AiTask) (result : AiReplyResult) (handler : AiHandler) : AiHandler :=
  let failed := { handler.metrics with failed := handler.metrics.failed + 1 }
  if !result.ok then
    { handler with metrics := countLatency result failed }.sendResult task.weakSession
      task.requestId (mapError result.error) "AI 服务暂时不可用" []
  else
    let safe := safeSuggestions result.suggestions
    if safe = [] then
      { handler with metrics := failed }.sendResult task.weakSession task.requestId .upstreamError
        "AI 返回内容无效" []
    else
      let succeeded := { handler.metrics with succeeded := handler.metrics.succeeded + 1 }
      { handler with metrics := countLatency result succeeded }.sendResult task.weakSession
        task.requestId .ok "" safe

section

variable (redactSensitiveText : Bytes → Bytes)

def work (server : Server) (generated : AiReplyResult) (handler : AiHandler) (task : AiTask) :
    AiHandler :=
  match task.stage with
  | .accepted =>
      { handler with activeRequests := insert task.key handler.activeRequests }.resume task .posted
  | .posted =>
      handler.resume task
        (if handler.isCancelled task.userId task.requestId then .finishing else .reading)
  | .reading =>
      let rows := server.messages.roamMessages task.userId task.peerId (2 ^ 63 - 1)
        (fetchLimit handler.config)
      let request := AiContextBuilder.buildReplyContext redactSensitiveText task.userId task.peerId
        handler.config.policy rows task.requestId task.tone task.maxSuggestions
      handler.resume task (.built request)
  | .built request =>
      if !current server task then handler.resume task .finishing
      else if request.turns = [] then
        (handler.resume task .finishing).sendResult task.weakSession task.requestId .invalidRequest
          "当前会话暂无文本消息" []
      else handler.resume task .asking
  | .asking => handler.resume task (.answered generated)
  | .answered result =>
      handler.resume task
        (if handler.isCancelled task.userId task.requestId then .finishing else .confirmed result)
  | .confirmed result =>
      if !current server task then handler.resume task .finishing
      else (handler.resume task .finishing).conclude task result
  | .finishing =>
      { handler with
        activeRequests := handler.activeRequests.erase task.key
        cancelledRequests := handler.cancelledRequests.erase task.key }.resume task .releasing
  | .releasing =>
      { handler with
        limiter := handler.limiter.release task.userId
        tasks := handler.tasks.erase task }

/-- `work` is a step of the thread that carries the request of `userId`. -/
inductive Event
  | reply (server : Server) (session : Option ConnId) (payload : Option AiReplyRq) (now : Int)
  | cancel (server : Server) (session : Option ConnId) (payload : Option Bytes)
  | work (server : Server) (generated : AiReplyResult) (userId : Int32)

def taskOf (userId : Int32) (handler : AiHandler) : Option AiTask :=
  handler.tasks.find? fun task => task.userId = userId

def next (handler : AiHandler) : Event → AiHandler
  | .reply server session payload now => handler.onReply server session payload now
  | .cancel server session payload => handler.onCancel server session payload
  | .work server generated userId =>
      match handler.taskOf userId with
      | none => handler
      | some task => handler.work redactSensitiveText server generated task

end

theorem requestKey_injective {userId other : Int32} {requestId last : Bytes}
    (same : requestKey userId requestId = requestKey other last) :
    userId = other ∧ requestId = last := by
  obtain ⟨users, ids⟩ := separated_inj (colon_notin_decimal _) (colon_notin_decimal _) same
  exact ⟨Int32.toInt_inj.mp (LocalFriends.decimal_injective users), ids⟩

/-! What one step can do. -/

structure Unmoved (before after : AiHandler) : Prop where
  users : after.limiter.inFlightUsers = before.limiter.inFlightUsers
  room : after.limiter.maxPending = before.limiter.maxPending
  active : after.activeRequests = before.activeRequests
  cancelled : after.cancelledRequests = before.cancelledRequests
  tasks : after.tasks = before.tasks

structure Admits (before after : AiHandler) (task : AiTask) : Prop where
  stage : task.stage = .accepted
  idle : task.userId ∉ before.limiter.inFlightUsers
  place : (before.limiter.inFlightUsers.card : Int) < before.limiter.maxPending
  users : after.limiter.inFlightUsers = insert task.userId before.limiter.inFlightUsers
  room : after.limiter.maxPending = before.limiter.maxPending
  active : after.activeRequests = before.activeRequests
  cancelled : after.cancelledRequests = before.cancelledRequests
  tasks : after.tasks = task :: before.tasks

/-- The thread of `task` moved to `stage`, or ended. -/
structure Worked (before after : AiHandler) (task : AiTask) (stage : Option AiTask.Stage) :
    Prop where
  tasks : after.tasks =
    (stage.map fun stage => { task with stage }).toList ++ before.tasks.erase task
  lower : ∀ following ∈ stage, following.rank < task.stage.rank
  listed : ∀ following ∈ stage, following.listed = decide (task.stage ≠ .finishing)
  last : stage = none → task.stage = .releasing
  users : after.limiter.inFlightUsers =
    if stage = none then before.limiter.inFlightUsers.erase task.userId
    else before.limiter.inFlightUsers
  room : after.limiter.maxPending = before.limiter.maxPending
  active : after.activeRequests =
    if task.stage = .accepted then insert task.key before.activeRequests
    else if task.stage = .finishing then before.activeRequests.erase task.key
    else before.activeRequests
  cancelled : after.cancelledRequests =
    if task.stage = .finishing then before.cancelledRequests.erase task.key
    else before.cancelledRequests
  confirmed : ∀ result, stage = some (.confirmed result) →
    task.stage = .answered result ∧ task.key ∉ before.cancelledRequests
  sent : after.sent = before.sent ∨ stage = some .finishing ∧ ∃ conn answer,
    task.weakSession = some conn ∧ after.sent = (conn, answer) :: before.sent ∧
      answer.requestId = task.requestId ∧ (answer.status = .ok → ∃ result,
        task.stage = .confirmed result ∧ answer.suggestions = safeSuggestions result.suggestions ∧
          answer.suggestions ≠ [])

section

variable {handler before after : AiHandler} {task : AiTask}

theorem sendResult_unmoved (handler : AiHandler) (session : Option ConnId) (requestId : Bytes)
    (status : AiReplyStatus) (error : String) (suggestions : List Bytes) :
    Unmoved handler (handler.sendResult session requestId status error suggestions) := by
  cases session <;> exact ⟨rfl, rfl, rfl, rfl, rfl⟩

theorem reject_unmoved (handler : AiHandler) (session : Option ConnId) (requestId : Bytes)
    (status : AiReplyStatus) (error : String) :
    Unmoved handler (handler.reject session requestId status error) := by
  cases session <;> exact ⟨rfl, rfl, rfl, rfl, rfl⟩

theorem onReply_cases (server : Server) (session : Option ConnId) (payload : Option AiReplyRq)
    (now : Int) (handler : AiHandler) :
    Unmoved handler (handler.onReply server session payload now) ∨
      ∃ request task, payload = some request ∧ task.weakSession = session ∧
        task.userId = userOf server session ∧ task.requestId = request.requestId ∧
        handler.Admits (handler.onReply server session payload now) task := by
  unfold onReply
  cases payload with
  | none => exact .inl (sendResult_unmoved ..)
  | some request =>
      dsimp only
      generalize userOf server session = userId
      split
      · exact .inl (reject_unmoved ..)
      split
      · exact .inl (reject_unmoved ..)
      split
      · exact .inl (reject_unmoved ..)
      split
      · exact .inl (reject_unmoved ..)
      split
      · exact .inl (reject_unmoved ..)
      rcases handler.limiter.tryAcquire_cases userId request.requestId now with
        ⟨result, limiter, tried, different, refuses⟩ | ⟨limiter, tried, accepts⟩
      · rw [tried]
        have unmoved (status : AiReplyStatus) (error : String) : Unmoved handler
            ({ handler with limiter }.reject session request.requestId status error) := by
          obtain ⟨users, room, active, cancelled, tasks⟩ :=
            reject_unmoved { handler with limiter } session request.requestId status error
          exact ⟨users.trans refuses.inFlightUsers, room.trans refuses.maxPending, active, cancelled,
            tasks⟩
        cases result with
        | accepted => exact absurd rfl different
        | busy => exact .inl (unmoved _ _)
        | rateLimited => exact .inl (unmoved _ _)
        | duplicate => exact .inl (unmoved _ _)
        | queueFull => exact .inl (unmoved _ _)
      · rw [tried]
        exact .inr ⟨request, _, rfl, rfl, rfl, rfl, rfl, accepts.idle, accepts.place,
          accepts.inFlightUsers, accepts.maxPending, rfl, rfl, rfl⟩

theorem onCancel_cases (server : Server) (session : Option ConnId) (payload : Option Bytes)
    (handler : AiHandler) :
    Unmoved handler (handler.onCancel server session payload) ∨ ∃ requestId,
      payload = some requestId ∧
        requestKey (userOf server session) requestId ∈ handler.activeRequests ∧
        (handler.onCancel server session payload).cancelledRequests =
          insert (requestKey (userOf server session) requestId) handler.cancelledRequests ∧
        (handler.onCancel server session payload).limiter = handler.limiter ∧
        (handler.onCancel server session payload).activeRequests = handler.activeRequests ∧
        (handler.onCancel server session payload).tasks = handler.tasks := by
  unfold onCancel
  cases payload with
  | none => exact .inl ⟨rfl, rfl, rfl, rfl, rfl⟩
  | some requestId =>
      dsimp only
      split
      · exact .inl ⟨rfl, rfl, rfl, rfl, rfl⟩
      · unfold markCancelled
        dsimp only
        split
        · rename_i marked
          split at marked
          · simp at marked
          · rename_i listed
            obtain rfl := (Prod.mk.inj marked).2
            exact .inr ⟨requestId, rfl, not_not.mp listed, rfl, rfl, rfl, rfl⟩
        · rename_i marked
          split at marked
          · obtain rfl := (Prod.mk.inj marked).2
            exact .inl ⟨rfl, rfl, rfl, rfl, rfl⟩
          · simp at marked

theorem Worked.resumed {stage : AiTask.Stage} (opened : task.stage ≠ .accepted)
    (unfinished : task.stage ≠ .finishing) (lower : stage.rank < task.stage.rank)
    (listed : stage.listed = true)
    (confirmed : ∀ result, stage = .confirmed result →
      task.stage = .answered result ∧ task.key ∉ handler.cancelledRequests) :
    handler.Worked (handler.resume task stage) task (some stage) where
  tasks := rfl
  lower := by
    rintro _ ⟨⟩
    exact lower
  listed := by
    rintro _ ⟨⟩
    simp [listed, unfinished]
  last := nofun
  users := rfl
  room := rfl
  active := by rw [if_neg opened, if_neg unfinished]; rfl
  cancelled := by rw [if_neg unfinished]; rfl
  confirmed := fun result same => confirmed result (Option.some.inj same)
  sent := .inl rfl

theorem Worked.told {metrics : AiMetrics} {status : AiReplyStatus} {error : String}
    {suggestions : List Bytes} (worked : before.Worked after task (some .finishing))
    (silent : after.sent = before.sent)
    (ok : status = .ok → ∃ result, task.stage = .confirmed result ∧
      suggestions = safeSuggestions result.suggestions ∧ suggestions ≠ []) :
    before.Worked ({ after with metrics }.sendResult task.weakSession task.requestId status error
      suggestions) task (some .finishing) := by
  obtain ⟨users, room, active, cancelled, tasks⟩ := sendResult_unmoved { after with metrics }
    task.weakSession task.requestId status error suggestions
  refine { worked with
    tasks := tasks.trans worked.tasks
    users := users.trans worked.users
    room := room.trans worked.room
    active := active.trans worked.active
    cancelled := cancelled.trans worked.cancelled
    sent := ?_ }
  cases held : task.weakSession with
  | none => exact .inl silent
  | some conn =>
      refine .inr ⟨rfl, conn, ⟨task.requestId, status, suggestions, error, true⟩, rfl, ?_, rfl, ok⟩
      exact congrArg (List.cons (conn, ⟨task.requestId, status, suggestions, error, true⟩)) silent

theorem conclude_worked {result : AiReplyResult} (at_ : task.stage = .confirmed result) :
    handler.Worked ((handler.resume task .finishing).conclude task result) task
      (some .finishing) := by
  have ended : handler.Worked (handler.resume task .finishing) task (some .finishing) :=
    Worked.resumed (by simp [at_]) (by simp [at_]) (by simp [at_, AiTask.Stage.rank]) rfl nofun
  unfold conclude
  dsimp only
  split
  · rename_i failed
    refine ended.told rfl fun ok => ?_
    have error : result.error = .none := by
      revert ok
      cases result.error <;> simp [mapError]
    simp [AiReplyResult.ok, error] at failed
  · split
    · exact ended.told rfl nofun
    · rename_i some
      exact ended.told rfl fun _ => ⟨result, at_, rfl, some⟩

theorem work_worked (redactSensitiveText : Bytes → Bytes) (server : Server)
    (generated : AiReplyResult) (handler : AiHandler) (task : AiTask) :
    ∃ stage, handler.Worked (handler.work redactSensitiveText server generated task) task stage := by
  unfold work
  cases at_ : task.stage with
  | accepted =>
      have unfinished : task.stage ≠ .finishing := by simp [at_]
      refine ⟨some .posted, rfl, ?_, ?_, nofun, rfl, rfl, ?_, ?_, nofun, .inl rfl⟩
      · rintro _ ⟨⟩
        simp [at_, AiTask.Stage.rank]
      · rintro _ ⟨⟩
        simp [at_, AiTask.Stage.listed]
      · rw [if_pos at_]
        rfl
      · rw [if_neg unfinished]
        rfl
  | posted =>
      refine ⟨_, Worked.resumed (by simp [at_]) (by simp [at_]) ?_ ?_ ?_⟩
      · split <;> simp [at_, AiTask.Stage.rank]
      · split <;> rfl
      · intro result same
        split at same <;> cases same
  | reading =>
      exact ⟨_, Worked.resumed (by simp [at_]) (by simp [at_]) (by simp [at_, AiTask.Stage.rank]) rfl
        nofun⟩
  | built request =>
      have moved (stage : AiTask.Stage) (lower : stage.rank < 6) (listed : stage.listed = true)
          (other : ∀ result, stage ≠ .confirmed result) :
          handler.Worked (handler.resume task stage) task (some stage) :=
        Worked.resumed (by simp [at_]) (by simp [at_]) (by simpa [at_, AiTask.Stage.rank] using lower)
          listed fun result same => absurd same (other result)
      dsimp only
      split
      · exact ⟨_, moved .finishing (by decide) rfl nofun⟩
      · split
        · exact ⟨_, (moved .finishing (by decide) rfl nofun).told rfl nofun⟩
        · exact ⟨_, moved .asking (by decide) rfl nofun⟩
  | asking =>
      exact ⟨_, Worked.resumed (by simp [at_]) (by simp [at_]) (by simp [at_, AiTask.Stage.rank]) rfl
        nofun⟩
  | answered result =>
      refine ⟨_, Worked.resumed (by simp [at_]) (by simp [at_]) ?_ ?_ ?_⟩
      · split <;> simp [at_, AiTask.Stage.rank]
      · split <;> rfl
      · intro other same
        split at same
        · cases same
        · rename_i uncancelled
          cases same
          exact ⟨at_, by simpa [isCancelled, AiTask.key] using uncancelled⟩
  | confirmed result =>
      dsimp only
      split
      · exact ⟨_, Worked.resumed (by simp [at_]) (by simp [at_]) (by simp [at_, AiTask.Stage.rank])
          rfl nofun⟩
      · exact ⟨_, conclude_worked at_⟩
  | finishing =>
      have opened : task.stage ≠ .accepted := by simp [at_]
      refine ⟨some .releasing, rfl, ?_, ?_, nofun, rfl, rfl, ?_, ?_, nofun, .inl rfl⟩
      · rintro _ ⟨⟩
        simp [at_, AiTask.Stage.rank]
      · rintro _ ⟨⟩
        simp [at_, AiTask.Stage.listed]
      · rw [if_neg opened, if_pos at_]
        rfl
      · rw [if_pos at_]
        rfl
  | releasing =>
      have opened : task.stage ≠ .accepted := by simp [at_]
      have unfinished : task.stage ≠ .finishing := by simp [at_]
      refine ⟨none, rfl, nofun, nofun, fun _ => at_, rfl, rfl, ?_, ?_, nofun, .inl rfl⟩
      · rw [if_neg opened, if_neg unfinished]
      · rw [if_neg unfinished]

end

/-! The books of the limiter and of the two sets. -/

structure Kept (config : AiConfig) (handler : AiHandler) : Prop where
  users : handler.limiter.inFlightUsers = (handler.tasks.map (·.userId)).toFinset
  single : (handler.tasks.map (·.userId)).Nodup
  room : handler.limiter.maxPending = max config.maxPendingRequests.toInt 1
  few : (handler.tasks.length : Int) ≤ max config.maxPendingRequests.toInt 1
  active : ∀ key, key ∈ handler.activeRequests ↔
    ∃ task ∈ handler.tasks, task.stage.listed = true ∧ task.key = key
  cancelled : handler.cancelledRequests ⊆ handler.activeRequests

namespace Kept

variable {config : AiConfig} {handler after : AiHandler} {task other : AiTask}

theorem inFlight (kept : handler.Kept config) {userId : Int32} :
    userId ∈ handler.limiter.inFlightUsers ↔ ∃ task ∈ handler.tasks, task.userId = userId := by
  rw [kept.users, List.mem_toFinset, List.mem_map]

theorem eq_of_user (kept : handler.Kept config) (member : task ∈ handler.tasks)
    (listed : other ∈ handler.tasks) (same : task.userId = other.userId) : task = other :=
  List.inj_on_of_nodup_map kept.single member listed same

theorem apart (kept : handler.Kept config) (member : task ∈ handler.tasks)
    (left : other ∈ handler.tasks.erase task) : other.userId ≠ task.userId := by
  intro same
  have unique : handler.tasks.Nodup := kept.single.of_map
  obtain ⟨different, inside⟩ := unique.mem_erase_iff.mp left
  exact different (kept.eq_of_user inside member same)

theorem taskOf_eq (kept : handler.Kept config) (member : task ∈ handler.tasks) :
    handler.taskOf task.userId = some task := by
  cases found : handler.taskOf task.userId with
  | none =>
      have other := List.find?_eq_none.mp found task member
      simp at other
  | some other =>
      have own : other.userId = task.userId := by simpa using List.find?_some found
      rw [kept.eq_of_user (List.mem_of_find?_eq_some found) member own]

theorem unmoved (kept : handler.Kept config) (same : handler.Unmoved after) :
    after.Kept config where
  users := by rw [same.users, same.tasks, kept.users]
  single := same.tasks ▸ kept.single
  room := same.room.trans kept.room
  few := same.tasks ▸ kept.few
  active := by rw [same.active, same.tasks]; exact kept.active
  cancelled := by rw [same.active, same.cancelled]; exact kept.cancelled

theorem admits (kept : handler.Kept config) (admits : handler.Admits after task) :
    after.Kept config where
  users := by rw [admits.users, admits.tasks, kept.users, List.map_cons, List.toFinset_cons]
  single := by
    rw [admits.tasks, List.map_cons, List.nodup_cons]
    refine ⟨fun listed => admits.idle ?_, kept.single⟩
    rwa [kept.users, List.mem_toFinset]
  room := admits.room.trans kept.room
  few := by
    have place := admits.place
    rw [kept.users, List.toFinset_card_of_nodup kept.single, List.length_map, kept.room] at place
    rw [admits.tasks, List.length_cons]
    omega
  active := by
    intro key
    rw [admits.active, admits.tasks, kept.active key]
    have unlisted : task.stage.listed = false := by rw [admits.stage]; rfl
    simp [unlisted]
  cancelled := by rw [admits.active, admits.cancelled]; exact kept.cancelled

theorem worked (kept : handler.Kept config) (member : task ∈ handler.tasks)
    {stage : Option AiTask.Stage} (worked : handler.Worked after task stage) :
    after.Kept config := by
  have split : handler.tasks.Perm (task :: handler.tasks.erase task) := List.perm_cons_erase member
  have single := (split.map (·.userId)).nodup_iff.mp kept.single
  rw [List.map_cons, List.nodup_cons] at single
  have others : ∀ other ∈ handler.tasks.erase task, other.key ≠ task.key := fun other left same =>
    kept.apart member left (requestKey_injective same).1
  have active (key : Bytes) : key ∈ handler.activeRequests ↔
      (task.stage.listed = true ∧ task.key = key) ∨
        ∃ other ∈ handler.tasks.erase task, other.stage.listed = true ∧ other.key = key := by
    rw [kept.active key]
    constructor
    · rintro ⟨other, inside, listed⟩
      rcases List.mem_cons.mp (split.mem_iff.mp inside) with rfl | left
      · exact .inl listed
      · exact .inr ⟨other, left, listed⟩
    · rintro (listed | ⟨other, left, listed⟩)
      · exact ⟨task, member, listed⟩
      · exact ⟨other, List.mem_of_mem_erase left, listed⟩
  have count : handler.tasks.length = (handler.tasks.erase task).length + 1 := split.length_eq
  have few := kept.few
  refine ⟨?_, ?_, worked.room.trans kept.room, ?_, ?_, ?_⟩
  · rw [worked.users, worked.tasks, kept.users, List.toFinset_eq_of_perm _ _ (split.map _)]
    cases stage with
    | none =>
        have gone : task.userId ∉ ((handler.tasks.erase task).map (·.userId)).toFinset :=
          fun listed => single.1 (List.mem_toFinset.mp listed)
        rw [if_pos rfl, List.map_cons, List.toFinset_cons, Finset.erase_insert gone]
        rfl
    | some following => simp
  · rw [worked.tasks]
    cases stage with
    | none => exact single.2
    | some following => exact List.nodup_cons.mpr single
  · rw [worked.tasks]
    cases stage with
    | none => simp only [Option.map_none, Option.toList_none, List.nil_append]; omega
    | some following => simp only [Option.map_some, Option.toList_some, List.cons_append,
        List.nil_append, List.length_cons]; omega
  · intro key
    have moved : (∃ left ∈ after.tasks, left.stage.listed = true ∧ left.key = key) ↔
        ((∃ following ∈ stage, following.listed = true) ∧ task.key = key) ∨
          ∃ other ∈ handler.tasks.erase task, other.stage.listed = true ∧ other.key = key := by
      rw [worked.tasks]
      cases stage with
      | none => simp
      | some following => simp [AiTask.key]
    rw [moved, worked.active]
    have listed := worked.listed
    have last := worked.last
    by_cases opening : task.stage = .accepted
    · cases stage with
      | none => simp [opening] at last
      | some following =>
          have opened : following.listed = true := by simpa [opening] using listed following rfl
          rw [if_pos opening, Finset.mem_insert, active key]
          have unlisted : ¬ task.stage.listed = true := by simp [opening, AiTask.Stage.listed]
          constructor
          · rintro (rfl | own | left)
            · exact .inl ⟨⟨following, rfl, opened⟩, rfl⟩
            · exact absurd own.1 unlisted
            · exact .inr left
          · rintro (own | left)
            · exact .inl own.2.symm
            · exact .inr (.inr left)
    · rw [if_neg opening]
      by_cases ending : task.stage = .finishing
      · cases stage with
        | none => simp [ending] at last
        | some following =>
            have closed : following.listed = false := by simpa [ending] using listed following rfl
            rw [if_pos ending, Finset.mem_erase, active key]
            constructor
            · rintro ⟨different, own | left⟩
              · exact absurd own.2.symm different
              · exact .inr left
            · rintro (⟨⟨moved, among, opened⟩, _⟩ | ⟨other, inside, own, same⟩)
              · obtain rfl := Option.mem_some.mp among
                simp [closed] at opened
              · exact ⟨same ▸ others other inside, .inr ⟨other, inside, own, same⟩⟩
      · rw [if_neg ending, active key]
        cases stage with
        | none => simp [last rfl, AiTask.Stage.listed]
        | some following =>
            have opened : following.listed = true := by simpa [ending] using listed following rfl
            have own : task.stage.listed = true :=
              AiTask.Stage.listed_of_lower opening (worked.lower following rfl)
            simp [opened, own]
  · intro key marked
    rw [worked.cancelled] at marked
    rw [worked.active]
    by_cases ending : task.stage = .finishing
    · rw [if_pos ending, Finset.mem_erase] at marked
      rw [if_neg (by simp [ending]), if_pos ending, Finset.mem_erase]
      exact ⟨marked.1, kept.cancelled marked.2⟩
    · rw [if_neg ending] at marked
      rw [if_neg ending]
      have held := kept.cancelled marked
      split
      · exact Finset.mem_insert_of_mem held
      · exact held

theorem cancel (kept : handler.Kept config) (server : Server) (session : Option ConnId)
    (payload : Option Bytes) : (handler.onCancel server session payload).Kept config := by
  rcases onCancel_cases server session payload handler with
    unmoved | ⟨requestId, _, listed, cancelled, limiter, active, tasks⟩
  · exact kept.unmoved unmoved
  · refine ⟨by rw [limiter, tasks, kept.users], tasks ▸ kept.single, limiter ▸ kept.room,
      tasks ▸ kept.few, by rw [active, tasks]; exact kept.active, ?_⟩
    rw [cancelled, active]
    exact Finset.insert_subset listed kept.cancelled

theorem next (kept : handler.Kept config) (redactSensitiveText : Bytes → Bytes) (event : Event) :
    (handler.next redactSensitiveText event).Kept config := by
  cases event with
  | reply server session payload now =>
      rcases onReply_cases server session payload now handler with
        unmoved | ⟨_, task, _, _, _, _, admits⟩
      · exact kept.unmoved unmoved
      · exact kept.admits admits
  | cancel server session payload => exact kept.cancel server session payload
  | work server generated userId =>
      cases found : handler.taskOf userId with
      | none => simpa only [AiHandler.next, found] using kept
      | some task =>
          obtain ⟨stage, worked⟩ := work_worked redactSensitiveText server generated handler task
          simp only [AiHandler.next, found]
          exact kept.worked (List.mem_of_find?_eq_some found) worked

end Kept

theorem create_kept (config : AiConfig) : (create config).Kept config where
  users := rfl
  single := .nil
  room := rfl
  few := le_trans Int.one_nonneg (le_max_right _ _)
  active := by simp [create]
  cancelled := Finset.Subset.refl _

theorem run_kept (redactSensitiveText : Bytes → Bytes) (config : AiConfig) (events : List Event) :
    (events.foldl (next redactSensitiveText) (create config)).Kept config :=
  List.foldlRecOn events (next redactSensitiveText) (create_kept config)
    fun _ kept event _ => kept.next redactSensitiveText event

/-- The limiter counts exactly the users with a thread on the way, and once no thread is left
nothing is held. -/
theorem threads_accounted (redactSensitiveText : Bytes → Bytes) (config : AiConfig)
    (events : List Event) :
    let handler := events.foldl (next redactSensitiveText) (create config)
    handler.Kept config ∧ (handler.tasks = [] → handler.limiter.inFlightUsers = ∅ ∧
      handler.activeRequests = ∅ ∧ handler.cancelledRequests = ∅) := by
  intro handler
  have kept : handler.Kept config := run_kept redactSensitiveText config events
  refine ⟨kept, fun none => ?_⟩
  have active : handler.activeRequests = ∅ := by
    refine Finset.eq_empty_of_forall_notMem fun key member => ?_
    obtain ⟨task, inside, _⟩ := (kept.active key).mp member
    rw [none] at inside
    exact absurd inside List.not_mem_nil
  refine ⟨by rw [kept.users, none]; rfl, active, ?_⟩
  exact Finset.subset_empty.mp (active ▸ kept.cancelled)

/-! A thread comes to its end. -/

def Event.worksFor (userId : Int32) : Event → Bool
  | work _ _ other => other = userId
  | _ => false

section

variable {config : AiConfig} {handler : AiHandler} {task : AiTask}

theorem Kept.carries (kept : handler.Kept config) (member : task ∈ handler.tasks)
    (redactSensitiveText : Bytes → Bytes) (event : Event) :
    (event.worksFor task.userId = false ∧ task ∈ (handler.next redactSensitiveText event).tasks) ∨
      event.worksFor task.userId = true ∧ ∃ stage,
        handler.Worked (handler.next redactSensitiveText event) task stage := by
  cases event with
  | reply server session payload now =>
      refine .inl ⟨rfl, ?_⟩
      rcases onReply_cases server session payload now handler with
        unmoved | ⟨_, _, _, _, _, _, admits⟩
      · exact unmoved.tasks ▸ member
      · exact admits.tasks ▸ List.mem_cons_of_mem _ member
  | cancel server session payload =>
      refine .inl ⟨rfl, ?_⟩
      rcases onCancel_cases server session payload handler with
        unmoved | ⟨_, _, _, _, _, _, tasks⟩
      · exact unmoved.tasks ▸ member
      · exact tasks ▸ member
  | work server generated userId =>
      by_cases own : userId = task.userId
      · subst own
        obtain ⟨stage, worked⟩ := work_worked redactSensitiveText server generated handler task
        refine .inr ⟨by simp [Event.worksFor], stage, ?_⟩
        simpa only [AiHandler.next, kept.taskOf_eq member] using worked
      · refine .inl ⟨by simpa [Event.worksFor] using own, ?_⟩
        cases found : handler.taskOf userId with
        | none => simpa only [AiHandler.next, found] using member
        | some other =>
            have user : other.userId = userId := by simpa using List.find?_some found
            obtain ⟨stage, worked⟩ := work_worked redactSensitiveText server generated handler other
            have different : task ≠ other := fun same => own (same ▸ user.symm)
            simp only [AiHandler.next, found]
            rw [worked.tasks]
            exact List.mem_append_right _ ((List.mem_erase_of_ne different).mpr member)

theorem ends (kept : handler.Kept config) (member : task ∈ handler.tasks)
    (redactSensitiveText : Bytes → Bytes) {events : List Event}
    (enough : task.stage.rank ≤ events.countP (Event.worksFor task.userId)) :
    ∃ front back, front ++ back = events ∧
      task.userId ∉ (front.foldl (next redactSensitiveText) handler).limiter.inFlightUsers := by
  induction events generalizing handler task with
  | nil =>
      have some := AiTask.Stage.rank_pos task.stage
      simp only [List.countP_nil] at enough
      omega
  | cons event rest ih =>
      have later := kept.next redactSensitiveText event
      rw [List.countP_cons] at enough
      rcases kept.carries member redactSensitiveText event with
        ⟨other, stays⟩ | ⟨own, stage, worked⟩
      · rw [other] at enough
        obtain ⟨front, back, split, gone⟩ := ih later stays (by simpa using enough)
        exact ⟨event :: front, back, by rw [List.cons_append, split], gone⟩
      · cases stage with
        | none =>
            refine ⟨[event], rest, rfl, ?_⟩
            change task.userId ∉ (handler.next redactSensitiveText event).limiter.inFlightUsers
            rw [worked.users, if_pos rfl]
            exact Finset.notMem_erase _ _
        | some following =>
            have lower := worked.lower following rfl
            rw [own, if_pos rfl] at enough
            have moved : { task with stage := following } ∈
                (handler.next redactSensitiveText event).tasks := by
              rw [worked.tasks]
              exact List.mem_cons_self
            obtain ⟨front, back, split, gone⟩ := ih later moved
              (show following.rank ≤ rest.countP (Event.worksFor task.userId) by omega)
            exact ⟨event :: front, back, by rw [List.cons_append, split], gone⟩

end

/-- Whatever the other threads and the clients do, nine steps of a user's thread release the
user. -/
theorem user_released (redactSensitiveText : Bytes → Bytes) (config : AiConfig)
    (earlier events : List Event) (userId : Int32)
    (enough : 9 ≤ events.countP (Event.worksFor userId)) :
    ∃ front back, front ++ back = events ∧ userId ∉ ((earlier ++ front).foldl
      (next redactSensitiveText) (create config)).limiter.inFlightUsers := by
  have kept := run_kept redactSensitiveText config earlier
  by_cases busy : userId ∈
      (earlier.foldl (next redactSensitiveText) (create config)).limiter.inFlightUsers
  · obtain ⟨task, member, rfl⟩ := kept.inFlight.mp busy
    have atMost := AiTask.Stage.rank_le task.stage
    obtain ⟨front, back, split, gone⟩ := ends kept member redactSensitiveText
      (le_trans atMost enough)
    exact ⟨front, back, split, by rwa [List.foldl_append]⟩
  · exact ⟨[], events, rfl, by rwa [List.append_nil]⟩

/-- A request about the chat that `afterFirstChat` has, and the steps of its thread to the last
look. -/
def suggesting : List Event :=
  .reply Server.afterFirstChat (some 10) (some { requestId := ascii "r-1", peerId := 2 }) 0 ::
    List.replicate 6 (.work Server.afterFirstChat { suggestions := [ascii "on my way"] } 1)

def keyed : AiConfig := { apiKey := ascii "k", model := ascii "m" }

theorem user_released_suggesting : ∃ front back,
    front ++ back = List.replicate 9 (.work Server.afterFirstChat {} 1) ∧
      (1 : Int32) ∉ ((suggesting ++ front).foldl (next id) (create keyed)).limiter.inFlightUsers :=
  user_released id keyed suggesting (List.replicate 9 (.work Server.afterFirstChat {} 1)) 1
    (by decide +kernel)

end AiHandler

end Jitong
