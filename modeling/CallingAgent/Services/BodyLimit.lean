import CallingAgent.Lib.Dialogue
import CallingAgent.Lib.Text

/-!
# The cap on request bodies — a program around the application

The middleware stands between the server and the application. It counts the
bytes of the body as they come in; where they pass the cap it raises in the
application, and whatever the application says from then on is replaced by
one answer 413.
-/

namespace CallingAgent

open Lib

/-! ## Messages -/

/-- A message the server hands in. -/
inductive HttpMessage where
  /-- `http.request`, with the bytes of `body` if it has any -/
  | request (body : Option (List UInt8)) (moreBody : Bool)
  | disconnect
  deriving DecidableEq

/-- A message the application gives out. -/
inductive HttpReply where
  | start (status : Nat) (headers : List (String × String))
  | body (text : String) (moreBody : Bool)
  deriving DecidableEq

/-- `http.response.start` -/
def HttpReply.isStart : HttpReply → Bool
  | .start .. => true
  | .body .. => false

/-- `len(message.get("body", b""))` -/
def HttpMessage.bodyLength : HttpMessage → Nat
  | .request body _ => (body.getD []).length
  | .disconnect => 0

/-- An exception in the application: the one of the middleware, or any
other. -/
inductive Raised (ε : Type) where
  | bodyTooLarge
  | other (e : ε)
  deriving DecidableEq

/-- What of the scope of a request the middleware reads. -/
structure HttpScope where
  /-- `scope["type"] == "http"` -/
  isHttp : Bool
  path : String
  headers : List (String × List UInt8)

/-- The two caps of the settings. -/
structure BodyCaps where
  maxRequestBodyBytes : Nat := 1048576
  maxImportBodyBytes : Nat := 6291456

/-- `_IMPORT_PATHS` -/
def importPaths : List String :=
  ["/api/v1/campaigns/import", "/api/v1/admin/suppressions/import"]

/-- `path.rstrip("/")` -/
def rstripSlashes (path : String) : String :=
  String.ofList (path.toList.reverse.dropWhile (· = '/')).reverse

/-- `_limit_for` -/
def limitFor (caps : BodyCaps) (path : String) : Nat :=
  if importPaths.contains (rstripSlashes path) then caps.maxImportBodyBytes
  else caps.maxRequestBodyBytes

/-- `dict(scope["headers"]).get(b"content-length", b"")`: the last one. -/
def declaredLength (headers : List (String × List UInt8)) : List UInt8 :=
  (headers.reverse.lookup "content-length").getD []

/-- `bytes.isdigit` -/
def bytesIsDigit (b : List UInt8) : Bool :=
  !b.isEmpty && b.all fun c => 48 ≤ c.toNat && c.toNat ≤ 57

/-- The number of a text of digits. -/
def bytesToNat (b : List UInt8) : Nat :=
  b.foldl (fun n c => 10 * n + (c.toNat - 48)) 0

/-- The digits `int` reads at most. -/
def maxStrDigits : Nat := 4300

/-! ## The middleware -/

/-- The answer of `_reject`. -/
def tooLargeReply : List HttpReply :=
  [.start 413 [("Connection", "close")],
    .body "\x7b\"detail\":\"Request body too large\"\x7d" false]

/-- The variables of one call. -/
structure CapVars where
  received : Nat := 0
  exceeded : Bool := false
  responseStarted : Bool := false
  deriving DecidableEq

section

variable (ε σ : Type)

/-- An application, by what it asks for in each state. -/
abbrev AsgiApp := σ → Ask (Raised ε) HttpMessage HttpReply σ

/-- Where the answer 413 goes on. -/
inductive AfterReject where
  /-- back in the application, whose `send` it replaces -/
  | inApp (k : Except (Raised ε) Unit → σ)
  /-- the application is over -/
  | atEnd

/-- Where a call of the middleware is. -/
inductive CapState where
  /-- a scope that is not HTTP -/
  | plain (s : σ)
  | app (s : σ) (v : CapVars)
  | rejecting (left : List HttpReply) (after : AfterReject ε σ) (v : CapVars)
  | failed (e : Raised ε)

end

section

variable {ε σ : Type}

/-- `limited_receive`, on what `receive` gave. -/
def limitedReceive (limit : Nat) (k : Except (Raised ε) HttpMessage → σ)
    (v : CapVars) : Except (Raised ε) HttpMessage → CapState ε σ
  | .error e => .app (k (.error e)) v
  | .ok .disconnect => .app (k (.ok .disconnect)) v
  | .ok (.request body more) =>
      let received := v.received + (HttpMessage.request body more).bodyLength
      if received > limit then
        .app (k (.error .bodyTooLarge)) { v with received, exceeded := true }
      else .app (k (.ok (.request body more))) { v with received }

/-- `guarded_send` -/
def guardedSend (o : HttpReply) (k : Except (Raised ε) Unit → σ)
    (v : CapVars) : Ask (Raised ε) HttpMessage HttpReply (CapState ε σ) :=
  if v.exceeded then
    if v.responseStarted then .silent (.app (k (.ok ())) v)
    else .silent (.rejecting tooLargeReply (.inApp k)
      { v with responseStarted := true })
  else .send o fun r =>
    .app (k r) { v with responseStarted := v.responseStarted || o.isStart }

/-- The application has returned, or raised the exception of the
middleware. -/
def afterApp (v : CapVars) :
    Ask (Raised ε) HttpMessage HttpReply (CapState ε σ) :=
  if v.exceeded && !v.responseStarted then
    .silent (.rejecting tooLargeReply .atEnd v)
  else .finish

/-- `BodySizeLimitMiddleware.__call__`, under its limit. -/
def bodySizeLimit (limit : Nat) (next : AsgiApp ε σ) :
    AsgiApp ε (CapState ε σ)
  | .plain s =>
      match next s with
      | .receive k => .receive fun x => .plain (k x)
      | .send o k => .send o fun r => .plain (k r)
      | .silent s => .silent (.plain s)
      | .finish => .finish
      | .fail e => .fail e
  | .app s v =>
      match next s with
      | .receive k => .receive (limitedReceive limit k v)
      | .send o k => guardedSend o k v
      | .silent s => .silent (.app s v)
      | .finish => afterApp v
      | .fail .bodyTooLarge => afterApp v
      | .fail (.other e) => .fail (.other e)
  | .rejecting [] (.inApp k) v => .silent (.app (k (.ok ())) v)
  | .rejecting [] .atEnd _ => .finish
  | .rejecting (o :: left) after v => .send o fun
      | .ok () => .rejecting left after v
      | .error e =>
          match after with
          | .inApp k => .app (k (.error e)) v
          | .atEnd => .failed e
  | .failed e => .fail e

/-- The same from its beginning: a scope that is not HTTP passes, and a
declared length over the cap is refused without the application. The
exception is `int`'s, for too many digits. -/
def bodySizeLimitStart (caps : BodyCaps) (valueError : ε) (scope : HttpScope)
    (s : σ) : CapState ε σ :=
  if !scope.isHttp then .plain s
  else
    let declared := declaredLength scope.headers
    if bytesIsDigit declared && declared.length > maxStrDigits then
      .failed (.other valueError)
    else if bytesIsDigit declared
        && bytesToNat declared > limitFor caps scope.path then
      .rejecting tooLargeReply .atEnd {}
    else .app s {}

end

/-! ## What the application is told, and what the client is told -/

section

variable {ε σ : Type} {limit : Nat} {next : AsgiApp ε σ}

/-- The bytes of body that have arrived. -/
def bodyBytes (log : List (Event (Raised ε) HttpMessage HttpReply)) : Nat :=
  weightIn HttpMessage.bodyLength log

/-- A response has been started. -/
def responded (log : List (Event (Raised ε) HttpMessage HttpReply)) : Bool :=
  (sentIn log).any (·.isStart)

theorem bodyBytes_append (a b : List (Event (Raised ε) HttpMessage HttpReply)) :
    bodyBytes (a ++ b) = bodyBytes a + bodyBytes b :=
  weightIn_append ..

theorem responded_append (a b : List (Event (Raised ε) HttpMessage HttpReply)) :
    responded (a ++ b) = (responded a || responded b) := by
  rw [responded, sentIn_append, List.any_append]
  rfl

/-- Some write did not reach the client. -/
def writeFailed (log : List (Event (Raised ε) HttpMessage HttpReply)) : Prop :=
  ∃ o e, Event.sent o (.error e) ∈ log

/-- The dialogue of the server `t` and that of the application `u`, once the
cap is passed: the application has an exception in the place of the message
that passes it, gets no byte of body from then on, and nothing it says from
then on goes out. -/
structure Crossed (limit : Nat)
    (t u : List (Event (Raised ε) HttpMessage HttpReply))
    (before after : List (Event (Raised ε) HttpMessage HttpReply))
    (refused : List HttpReply) : Prop where
  exceeded : limit < bodyBytes t
  split : u = before ++ .received (.error .bodyTooLarge) :: after
  within : bodyBytes before ≤ limit
  empty : bodyBytes after = 0
  sent : sentIn t = sentIn before ++ refused
  once : responded before = true → refused = []
  answer : refused <+: tooLargeReply

/-- The application is at its end, as the middleware sees it. -/
def AsgiApp.Over (next : AsgiApp ε σ) (s : σ) : Prop :=
  next s = .finish ∨ next s = .fail .bodyTooLarge

/-- How a call of the middleware and a run of the application hang
together. -/
inductive Wraps (limit : Nat) (next : AsgiApp ε σ) :
    Dialogue (Raised ε) HttpMessage HttpReply (CapState ε σ) →
      Dialogue (Raised ε) HttpMessage HttpReply σ → Prop
  | fits {s v log} (hbytes : bodyBytes log ≤ limit)
      (hv : v = ⟨bodyBytes log, false, responded log⟩) :
      Wraps limit next ⟨.app s v, log⟩ ⟨s, log⟩
  | exceeded {s t u before after refused} (h : Crossed limit t u before after refused)
      (hwhole : refused = [] ∨ refused = tooLargeReply ∨ writeFailed t) :
      Wraps limit next
        ⟨.app s ⟨bodyBytes t, true, responded before || !refused.isEmpty⟩, t⟩
        ⟨s, u⟩
  | rejectingIn {s o k t u before after refused left}
      (h : Crossed limit t u before after refused)
      (hnone : responded before = false) (hleft : refused ++ left = tooLargeReply)
      (hask : next s = .send o k) :
      Wraps limit next
        ⟨.rejecting left (.inApp k) ⟨bodyBytes t, true, true⟩, t⟩ ⟨s, u⟩
  | rejectingEnd {s v t u before after refused left}
      (h : Crossed limit t u before after refused)
      (hnone : responded before = false) (hleft : refused ++ left = tooLargeReply) (hask : next.Over s) :
      Wraps limit next ⟨.rejecting left .atEnd v, t⟩ ⟨s, u⟩
  | failed {s e t u before after refused}
      (h : Crossed limit t u before after refused) (hfailed : writeFailed t) :
      Wraps limit next ⟨.failed e, t⟩ ⟨s, u⟩

namespace Crossed

variable {t u before after : List (Event (Raised ε) HttpMessage HttpReply)}
  {refused : List HttpReply}

/-- Nothing more of the body gets in. -/
theorem receive (h : Crossed limit t u before after refused)
    (x y : Except (Raised ε) HttpMessage)
    (hy : bodyBytes ([.received y] : List (Event (Raised ε) HttpMessage
      HttpReply)) = 0) :
    Crossed limit (t ++ [.received x]) (u ++ [.received y]) before
      (after ++ [.received y]) refused where
  exceeded := by
    rw [bodyBytes_append]
    exact Nat.lt_of_lt_of_le h.exceeded (Nat.le_add_right _ _)
  split := by rw [h.split, List.append_assoc, List.cons_append]
  within := h.within
  empty := by rw [bodyBytes_append, hy, Nat.add_zero, h.empty]
  sent := by
    rw [sentIn_append, h.sent]
    exact List.append_nil _
  once := h.once
  answer := h.answer

/-- What the application says does not go out. -/
theorem swallow (h : Crossed limit t u before after refused) (o : HttpReply)
    (r : Except (Raised ε) Unit) :
    Crossed limit t (u ++ [.sent o r]) before (after ++ [.sent o r]) refused where
  exceeded := h.exceeded
  split := by rw [h.split, List.append_assoc, List.cons_append]
  within := h.within
  empty := by rw [bodyBytes_append, h.empty]; rfl
  sent := h.sent
  once := h.once
  answer := h.answer

/-- A part of the answer 413 goes out. -/
theorem refuse (h : Crossed limit t u before after refused) {o : HttpReply}
    {r : Except (Raised ε) Unit} {left : List HttpReply}
    (hnone : responded before = false)
    (hleft : refused ++ o :: left = tooLargeReply) :
    Crossed limit (t ++ [.sent o r]) u before after (refused ++ [o]) where
  exceeded := by
    rw [bodyBytes_append]
    exact Nat.lt_of_lt_of_le h.exceeded (Nat.le_add_right _ _)
  split := h.split
  within := h.within
  empty := h.empty
  sent := by
    rw [sentIn_append, h.sent, List.append_assoc]
    rfl
  once hsome := by rw [hnone] at hsome; cases hsome
  answer := ⟨left, by rw [List.append_assoc]; exact hleft⟩

end Crossed

theorem writeFailed_append {t : List (Event (Raised ε) HttpMessage HttpReply)}
    (h : writeFailed t) (e : Event (Raised ε) HttpMessage HttpReply) :
    writeFailed (t ++ [e]) := by
  obtain ⟨o, x, hmem⟩ := h
  exact ⟨o, x, List.mem_append_left _ hmem⟩

/-! ### One step -/

/-- The application takes at most one step with it. -/
def Together (limit : Nat) (next : AsgiApp ε σ)
    (u : Dialogue (Raised ε) HttpMessage HttpReply σ)
    (t' : Dialogue (Raised ε) HttpMessage HttpReply (CapState ε σ)) : Prop :=
  ∃ u', Wraps limit next t' u' ∧
    (u' = u ∨ ∃ b, dialogueStep next u b = some u')

/-- A message comes in while the body fits. -/
theorem follows_receive {s : σ} {log : List (Event (Raised ε) HttpMessage
      HttpReply)} {k : Except (Raised ε) HttpMessage → σ}
    (hk : next s = .receive k) (hbytes : bodyBytes log ≤ limit)
    (x : Except (Raised ε) HttpMessage) :
    Together limit next ⟨s, log⟩
      ⟨limitedReceive limit k ⟨bodyBytes log, false, responded log⟩ x,
        log ++ [.received x]⟩ := by
  have hsame : ∀ x n, bodyBytes ([.received x] : List (Event (Raised ε)
      HttpMessage HttpReply)) = n → bodyBytes log + n ≤ limit →
      Together limit next ⟨s, log⟩
        ⟨.app (k x) ⟨bodyBytes log + n, false, responded log⟩,
          log ++ [.received x]⟩ := by
    intro x n hn hle
    have hsum : bodyBytes (log ++ [.received x]) = bodyBytes log + n := by
      rw [bodyBytes_append, hn]
    refine ⟨⟨k x, log ++ [.received x]⟩, .fits (hsum ▸ hle) ?_,
      .inr ⟨.message x, dialogueStep_message hk⟩⟩
    rw [hsum, responded_append]
    exact congrArg _ (Bool.or_false _).symm
  match x with
  | .error e => exact hsame (.error e) 0 rfl hbytes
  | .ok .disconnect => exact hsame (.ok .disconnect) 0 rfl hbytes
  | .ok (.request body more) =>
      simp only [limitedReceive]
      split
      · next hover =>
        have hsum : bodyBytes (log ++ [.received (.ok (.request body more))])
            = bodyBytes log + (HttpMessage.request body more).bodyLength :=
          bodyBytes_append ..
        have hc : Crossed limit (log ++ [.received (.ok (.request body more))])
            (log ++ [.received (.error .bodyTooLarge)]) log [] [] :=
          { exceeded := hsum ▸ hover
            split := rfl
            within := hbytes
            empty := rfl
            sent := sentIn_append ..
            once := fun _ => rfl
            answer := List.nil_prefix }
        have hfollows : Wraps limit next _ _ := Wraps.exceeded
          (s := k (.error .bodyTooLarge)) hc (.inl rfl)
        rw [hsum, List.isEmpty_nil, Bool.not_true, Bool.or_false] at hfollows
        exact ⟨_, hfollows, .inr ⟨.message (.error .bodyTooLarge),
          dialogueStep_message hk⟩⟩
      · next hfits => exact hsame _ _ rfl (Nat.not_lt.mp hfits)

/-- A step while the body fits. -/
theorem follows_fits {s : σ} {log : List (Event (Raised ε) HttpMessage
      HttpReply)} {a : Answer (Raised ε) HttpMessage}
    {t' : Dialogue (Raised ε) HttpMessage HttpReply (CapState ε σ)}
    (hbytes : bodyBytes log ≤ limit)
    (hs : dialogueStep (bodySizeLimit limit next)
      ⟨.app s ⟨bodyBytes log, false, responded log⟩, log⟩ a = some t') :
    Together limit next ⟨s, log⟩ t' := by
  cases hk : next s with
  | receive k =>
      rcases dialogueStep_cases hs with ⟨k', x, rfl, hask, rfl⟩ |
        ⟨o, k', r, rfl, hask, -⟩ | ⟨s', rfl, hask, -⟩
      · simp only [bodySizeLimit, hk, Ask.receive.injEq] at hask
        subst hask
        exact follows_receive hk hbytes x
      · simp only [bodySizeLimit, hk, reduceCtorEq] at hask
      · simp only [bodySizeLimit, hk, reduceCtorEq] at hask
  | send o k =>
      rcases dialogueStep_cases hs with ⟨k', x, rfl, hask, -⟩ |
        ⟨o', k', r, rfl, hask, rfl⟩ | ⟨s', rfl, hask, -⟩
      · simp [bodySizeLimit, hk, guardedSend] at hask
      · simp only [bodySizeLimit, hk, guardedSend, Bool.false_eq_true, if_false,
          Ask.send.injEq] at hask
        obtain ⟨rfl, rfl⟩ := hask
        have hsum : bodyBytes (log ++ [.sent o r]) = bodyBytes log :=
          bodyBytes_append ..
        refine ⟨⟨k r, log ++ [.sent o r]⟩, .fits (hsum ▸ hbytes) ?_,
          .inr ⟨.written r, dialogueStep_written hk⟩⟩
        rw [hsum, responded_append]
        exact congrArg _ (congrArg _ (Bool.or_false _).symm)
      · simp [bodySizeLimit, hk, guardedSend] at hask
  | silent s₁ =>
      rcases dialogueStep_cases hs with ⟨k', x, rfl, hask, -⟩ |
        ⟨o', k', r, rfl, hask, -⟩ | ⟨s', rfl, hask, rfl⟩
      · simp only [bodySizeLimit, hk, reduceCtorEq] at hask
      · simp only [bodySizeLimit, hk, reduceCtorEq] at hask
      · simp only [bodySizeLimit, hk, Ask.silent.injEq] at hask
        subst hask
        exact ⟨⟨s₁, log⟩, .fits hbytes rfl, .inr ⟨.idle, dialogueStep_idle hk⟩⟩
  | finish =>
      rcases dialogueStep_cases hs with ⟨k', x, rfl, hask, -⟩ |
        ⟨o', k', r, rfl, hask, -⟩ | ⟨s', rfl, hask, -⟩ <;>
        simp [bodySizeLimit, hk, afterApp] at hask
  | fail e =>
      cases e <;>
        (rcases dialogueStep_cases hs with ⟨k', x, rfl, hask, -⟩ |
          ⟨o', k', r, rfl, hask, -⟩ | ⟨s', rfl, hask, -⟩ <;>
          simp [bodySizeLimit, hk, afterApp] at hask)

section Over

variable {s : σ} {t u before after : List (Event (Raised ε) HttpMessage
    HttpReply)} {refused left : List HttpReply}
  {a : Answer (Raised ε) HttpMessage}
  {t' : Dialogue (Raised ε) HttpMessage HttpReply (CapState ε σ)}

/-- A message that comes in once the cap is passed. -/
theorem Crossed.follows_receive (h : Crossed limit t u before after refused)
    (hwhole : refused = [] ∨ refused = tooLargeReply ∨ writeFailed t)
    {k : Except (Raised ε) HttpMessage → σ} (hk : next s = .receive k)
    (x : Except (Raised ε) HttpMessage) :
    Together limit next ⟨s, u⟩
      ⟨limitedReceive limit k
        ⟨bodyBytes t, true, responded before || !refused.isEmpty⟩ x,
        t ++ [.received x]⟩ := by
  have hin : ∀ x y n, bodyBytes ([.received y] : List (Event (Raised ε)
      HttpMessage HttpReply)) = 0 →
      bodyBytes (t ++ [.received x]) = n →
      Together limit next ⟨s, u⟩
        ⟨.app (k y) ⟨n, true, responded before || !refused.isEmpty⟩,
          t ++ [.received x]⟩ := by
    rintro x y n hy rfl
    refine ⟨⟨k y, u ++ [.received y]⟩, .exceeded (h.receive x y hy) ?_,
      .inr ⟨.message y, dialogueStep_message hk⟩⟩
    exact hwhole.imp_right fun hw => hw.imp_right fun hw =>
      writeFailed_append hw _
  match x with
  | .error e => exact hin (.error e) (.error e) _ rfl (bodyBytes_append ..)
  | .ok .disconnect => exact hin (.ok .disconnect) (.ok .disconnect) _ rfl (bodyBytes_append ..)
  | .ok (.request body more) =>
      have hover : limit < bodyBytes t
          + (HttpMessage.request body more).bodyLength :=
        Nat.lt_of_lt_of_le h.exceeded (Nat.le_add_right _ _)
      simp only [limitedReceive, if_pos hover]
      exact hin (.ok (.request body more)) (.error .bodyTooLarge) _ rfl
        (bodyBytes_append ..)

/-- A step of the application once the cap is passed. -/
theorem Crossed.follows_over (h : Crossed limit t u before after refused)
    (hwhole : refused = [] ∨ refused = tooLargeReply ∨ writeFailed t)
    (hs : dialogueStep (bodySizeLimit limit next)
      ⟨.app s ⟨bodyBytes t, true, responded before || !refused.isEmpty⟩, t⟩ a
        = some t') :
    Together limit next ⟨s, u⟩ t' := by
  generalize hst : (responded before || !refused.isEmpty) = started at hs
  have hempty : started = false → responded before = false ∧ refused = [] := by
    rintro rfl
    obtain ⟨hnone, hempty⟩ := Bool.or_eq_false_iff.mp hst
    exact ⟨hnone, by simpa using hempty⟩
  have hend : next.Over s → Together limit next ⟨s, u⟩ t' := by
    intro hover
    have hask : bodySizeLimit limit next (.app s ⟨bodyBytes t, true, started⟩)
        = afterApp ⟨bodyBytes t, true, started⟩ := by
      rcases hover with hk | hk <;> simp only [bodySizeLimit, hk]
    cases started with
    | true =>
        rcases dialogueStep_cases hs with ⟨k', x, -, hask', -⟩ |
          ⟨o', k', r, -, hask', -⟩ | ⟨s', -, hask', -⟩ <;>
          simp [hask, afterApp] at hask'
    | false =>
        rcases dialogueStep_cases hs with ⟨k', x, -, hask', -⟩ |
          ⟨o', k', r, -, hask', -⟩ | ⟨s', -, hask', rfl⟩
        · simp [hask, afterApp] at hask'
        · simp [hask, afterApp] at hask'
        · simp only [hask, afterApp, Bool.not_false, Bool.and_true, if_true,
            Ask.silent.injEq] at hask'
          subst hask'
          obtain ⟨hnone, rfl⟩ := hempty rfl
          exact ⟨⟨s, u⟩, .rejectingEnd h hnone rfl hover, .inl rfl⟩
  cases hk : next s with
  | receive k =>
      rcases dialogueStep_cases hs with ⟨k', x, rfl, hask, rfl⟩ |
        ⟨o, k', r, rfl, hask, -⟩ | ⟨s', rfl, hask, -⟩
      · simp only [bodySizeLimit, hk, Ask.receive.injEq] at hask
        subst hask hst
        exact h.follows_receive hwhole hk x
      · simp only [bodySizeLimit, hk, reduceCtorEq] at hask
      · simp only [bodySizeLimit, hk, reduceCtorEq] at hask
  | send o k =>
      -- its message is not the one that goes out
      cases started with
      | true =>
          rcases dialogueStep_cases hs with ⟨k', x, -, hask, -⟩ |
            ⟨o', k', r, -, hask, -⟩ | ⟨s', -, hask, rfl⟩
          · simp [bodySizeLimit, hk, guardedSend] at hask
          · simp [bodySizeLimit, hk, guardedSend] at hask
          · simp only [bodySizeLimit, hk, guardedSend, if_true,
              Ask.silent.injEq] at hask
            subst hask
            have hfollows : Wraps limit next _ _ := Wraps.exceeded (s := k (.ok ()))
              (h.swallow o (.ok ())) hwhole
            rw [hst] at hfollows
            exact ⟨_, hfollows, .inr ⟨.written (.ok ()),
              dialogueStep_written hk⟩⟩
      | false =>
          rcases dialogueStep_cases hs with ⟨k', x, -, hask, -⟩ |
            ⟨o', k', r, -, hask, -⟩ | ⟨s', -, hask, rfl⟩
          · simp [bodySizeLimit, hk, guardedSend] at hask
          · simp [bodySizeLimit, hk, guardedSend] at hask
          · simp only [bodySizeLimit, hk, guardedSend, if_true,
              Bool.false_eq_true, if_false, Ask.silent.injEq] at hask
            subst hask
            obtain ⟨hnone, rfl⟩ := hempty rfl
            exact ⟨⟨s, u⟩, .rejectingIn h hnone rfl hk, .inl rfl⟩
  | silent s₁ =>
      rcases dialogueStep_cases hs with ⟨k', x, rfl, hask, -⟩ |
        ⟨o', k', r, rfl, hask, -⟩ | ⟨s', rfl, hask, rfl⟩
      · simp only [bodySizeLimit, hk, reduceCtorEq] at hask
      · simp only [bodySizeLimit, hk, reduceCtorEq] at hask
      · simp only [bodySizeLimit, hk, Ask.silent.injEq] at hask
        subst hask hst
        exact ⟨⟨s₁, u⟩, .exceeded h hwhole, .inr ⟨.idle, dialogueStep_idle hk⟩⟩
  | finish => exact hend (.inl hk)
  | fail e =>
      cases e with
      | bodyTooLarge => exact hend (.inr hk)
      | other e =>
          rcases dialogueStep_cases hs with ⟨k', x, -, hask, -⟩ |
            ⟨o', k', r, -, hask, -⟩ | ⟨s', -, hask, -⟩ <;>
            simp only [bodySizeLimit, hk, reduceCtorEq] at hask

/-- A step of the answer 413, in the place of a message of the
application. -/
theorem Crossed.follows_rejectingIn
    (h : Crossed limit t u before after refused)
    (hnone : responded before = false)
    (hleft : refused ++ left = tooLargeReply) {o : HttpReply}
    {k : Except (Raised ε) Unit → σ} (hask : next s = .send o k)
    (hs : dialogueStep (bodySizeLimit limit next)
      ⟨.rejecting left (.inApp k) ⟨bodyBytes t, true, true⟩, t⟩ a = some t') :
    Together limit next ⟨s, u⟩ t' := by
  cases left with
  | nil =>
      rw [List.append_nil] at hleft
      subst hleft
      rcases dialogueStep_cases hs with ⟨k', x, -, hasks, -⟩ |
        ⟨o', k', r, -, hasks, -⟩ | ⟨s', -, hasks, rfl⟩
      · simp only [bodySizeLimit, reduceCtorEq] at hasks
      · simp only [bodySizeLimit, reduceCtorEq] at hasks
      · simp only [bodySizeLimit, Ask.silent.injEq] at hasks
        subst hasks
        have hfollows : Wraps limit next _ _ := Wraps.exceeded (s := k (.ok ()))
          (h.swallow o (.ok ())) (.inr (.inl rfl))
        rw [hnone] at hfollows
        exact ⟨_, hfollows, .inr ⟨.written (.ok ()), dialogueStep_written hask⟩⟩
  | cons o₁ left =>
      rcases dialogueStep_cases hs with ⟨k', x, -, hasks, -⟩ |
        ⟨o', k', r, -, hasks, rfl⟩ | ⟨s', -, hasks, -⟩
      · simp only [bodySizeLimit, reduceCtorEq] at hasks
      · simp only [bodySizeLimit, Ask.send.injEq] at hasks
        obtain ⟨rfl, rfl⟩ := hasks
        have hr := h.refuse hnone hleft (r := r)
        have hsum : bodyBytes (t ++ [.sent o₁ r]) = bodyBytes t :=
          bodyBytes_append ..
        cases r with
        | ok _ =>
            have hfollows := Wraps.rejectingIn hr hnone
              (by rw [List.append_assoc]; exact hleft) hask
            rw [hsum] at hfollows
            exact ⟨_, hfollows, .inl rfl⟩
        | error e =>
            have hfollows : Wraps limit next _ _ := Wraps.exceeded (s := k (.error e))
              (hr.swallow o (.error e))
              (.inr (.inr ⟨o₁, e, List.mem_append_right _ (.head _)⟩))
            rw [hsum, hnone, show (!(refused ++ [o₁]).isEmpty) = true by simp]
              at hfollows
            exact ⟨_, hfollows, .inr ⟨.written (.error e),
              dialogueStep_written hask⟩⟩
      · simp only [bodySizeLimit, reduceCtorEq] at hasks

/-- A step of the answer 413 after the application. -/
theorem Crossed.follows_rejectingEnd
    (h : Crossed limit t u before after refused)
    (hnone : responded before = false)
    (hleft : refused ++ left = tooLargeReply) (hover : next.Over s)
    {v : CapVars}
    (hs : dialogueStep (bodySizeLimit limit next)
      ⟨.rejecting left .atEnd v, t⟩ a = some t') :
    Together limit next ⟨s, u⟩ t' := by
  cases left with
  | nil =>
      rcases dialogueStep_cases hs with ⟨k', x, -, hasks, -⟩ |
        ⟨o', k', r, -, hasks, -⟩ | ⟨s', -, hasks, -⟩ <;>
        simp only [bodySizeLimit, reduceCtorEq] at hasks
  | cons o₁ left =>
      rcases dialogueStep_cases hs with ⟨k', x, -, hasks, -⟩ |
        ⟨o', k', r, -, hasks, rfl⟩ | ⟨s', -, hasks, -⟩
      · simp only [bodySizeLimit, reduceCtorEq] at hasks
      · simp only [bodySizeLimit, Ask.send.injEq] at hasks
        obtain ⟨rfl, rfl⟩ := hasks
        have hr := h.refuse hnone hleft (r := r)
        cases r with
        | ok _ =>
            exact ⟨⟨s, u⟩, .rejectingEnd hr hnone
              (by rw [List.append_assoc]; exact hleft) hover, .inl rfl⟩
        | error e =>
            exact ⟨⟨s, u⟩, .failed hr
              ⟨o₁, e, List.mem_append_right _ (.head _)⟩, .inl rfl⟩
      · simp only [bodySizeLimit, reduceCtorEq] at hasks

end Over

/-- **One step** of the middleware is at most one of the application. -/
theorem Wraps.step
    {t t' : Dialogue (Raised ε) HttpMessage HttpReply (CapState ε σ)}
    {u : Dialogue (Raised ε) HttpMessage HttpReply σ}
    {a : Answer (Raised ε) HttpMessage} (h : Wraps limit next t u)
    (hs : dialogueStep (bodySizeLimit limit next) t a = some t') :
    Together limit next u t' := by
  cases h with
  | fits hbytes hv =>
      subst hv
      exact follows_fits hbytes hs
  | exceeded h hwhole => exact h.follows_over hwhole hs
  | rejectingIn h hnone hleft hask =>
      exact h.follows_rejectingIn hnone hleft hask hs
  | rejectingEnd h hnone hleft hover =>
      exact h.follows_rejectingEnd hnone hleft hover hs
  | failed h hfailed =>
      rcases dialogueStep_cases hs with ⟨k', x, -, hask, -⟩ |
        ⟨o', k', r, -, hask, -⟩ | ⟨s', -, hask, -⟩ <;>
        simp only [bodySizeLimit, reduceCtorEq] at hask

/-! ### Runs -/

/-- A run of the middleware with the run of the application in it: the
application gets at most `limit` bytes of body; while the body fits the
middleware is not there; and a body that does not fit is answered once,
by the application if it had begun to, and by 413 if it had not. -/
structure Capped (limit : Nat) (next : AsgiApp ε σ)
    (t : Dialogue (Raised ε) HttpMessage HttpReply (CapState ε σ))
    (u : Dialogue (Raised ε) HttpMessage HttpReply σ) : Prop where
  bounded : bodyBytes u.log ≤ limit
  whole : bodyBytes t.log ≤ limit → t.log = u.log
  cut : limit < bodyBytes t.log → ∃ before after refused,
    Crossed limit t.log u.log before after refused ∧
      (bodySizeLimit limit next t.state = .finish → ¬ writeFailed t.log →
        responded before = true ∨ refused = tooLargeReply)

theorem Crossed.bounded {t u before after : List (Event (Raised ε) HttpMessage
      HttpReply)} {refused : List HttpReply}
    (h : Crossed limit t u before after refused) : bodyBytes u ≤ limit := by
  rw [h.split, bodyBytes_append,
    show bodyBytes (.received (.error .bodyTooLarge) :: after)
      = bodyBytes after from rfl, h.empty]
  exact h.within

theorem Crossed.capped {t : Dialogue (Raised ε) HttpMessage HttpReply
      (CapState ε σ)} {u : Dialogue (Raised ε) HttpMessage HttpReply σ}
    {before after : List (Event (Raised ε) HttpMessage HttpReply)}
    {refused : List HttpReply} (h : Crossed limit t.log u.log before after refused)
    (hend : bodySizeLimit limit next t.state = .finish → ¬ writeFailed t.log →
      responded before = true ∨ refused = tooLargeReply) :
    Capped limit next t u where
  bounded := h.bounded
  whole hle := absurd hle (Nat.not_le.mpr h.exceeded)
  cut _ := ⟨before, after, refused, h, hend⟩

theorem Wraps.capped
    {t : Dialogue (Raised ε) HttpMessage HttpReply (CapState ε σ)}
    {u : Dialogue (Raised ε) HttpMessage HttpReply σ}
    (h : Wraps limit next t u) : Capped limit next t u := by
  cases h with
  | fits hbytes hv =>
      exact ⟨hbytes, fun _ => rfl, fun hlt => absurd hbytes (Nat.not_le.mpr hlt)⟩
  | exceeded h hwhole =>
      refine h.capped fun hfinish hok => ?_
      rename_i s t u before after refused
      rcases hwhole with rfl | hwhole | hfailed
      · -- nothing was refused yet: only a response under way lets it finish
        left
        rw [List.isEmpty_nil, Bool.not_true, Bool.or_false] at hfinish
        cases hs : responded before with
        | true => rfl
        | false =>
            rw [hs] at hfinish
            cases hk : next s with
            | fail e =>
                cases e <;> simp [bodySizeLimit, hk, afterApp] at hfinish
            | _ => simp [bodySizeLimit, hk, afterApp, guardedSend] at hfinish
      · exact .inr hwhole
      · exact absurd hfailed hok
  | rejectingIn h hnone hleft hask =>
      rename_i s o k t u before after refused left
      refine h.capped fun hfinish _ => ?_
      cases left <;> simp [bodySizeLimit] at hfinish
  | rejectingEnd h hnone hleft hover =>
      rename_i s v t u before after refused left
      refine h.capped fun hfinish _ => ?_
      cases left with
      | nil =>
          rw [List.append_nil] at hleft
          exact .inr hleft
      | cons o left => simp [bodySizeLimit] at hfinish
  | failed h hfailed => exact h.capped fun _ hok => absurd hfailed hok

/-- A run of the middleware from the application's first state. -/
theorem run_capped {s : σ}
    {t : Dialogue (Raised ε) HttpMessage HttpReply (CapState ε σ)}
    (h : Run (dialogueStep (bodySizeLimit limit next)) (fun _ _ => True)
      ⟨.app s {}, []⟩ t) :
    ∃ u, Run (dialogueStep next) (fun _ _ => True) ⟨s, []⟩ u ∧
      Capped limit next t u := by
  have hstart : Wraps limit next ⟨.app s {}, []⟩ ⟨s, []⟩ :=
    .fits (Nat.zero_le _) rfl
  obtain ⟨u, hrun, hfollows⟩ := h.inv
    (P := fun t => ∃ u, Run (dialogueStep next) (fun _ _ => True) ⟨s, []⟩ u ∧
      Wraps limit next t u)
    (fun t a t' ⟨u, hrun, hfollows⟩ _ hs => by
      obtain ⟨u', hfollows', rfl | ⟨b, hb⟩⟩ := hfollows.step hs
      · exact ⟨u', hrun, hfollows'⟩
      · exact ⟨u', hrun.step trivial hb, hfollows'⟩)
    ⟨_, .refl, hstart⟩
  exact ⟨u, hrun, hfollows.capped⟩

/-! ### Refused by its declared length -/

/-- What the declared length must be for the application to be asked: where
it is a number, `int` reads it and it is within the cap. -/
def DeclaredFits (caps : BodyCaps) (scope : HttpScope) : Prop :=
  bytesIsDigit (declaredLength scope.headers) = true →
    (declaredLength scope.headers).length ≤ maxStrDigits ∧
    bytesToNat (declaredLength scope.headers) ≤ limitFor caps scope.path

/-- The application is not asked, nothing is received, and the answer 413
goes out as far as the client takes it. -/
structure Declared (t : Dialogue (Raised ε) HttpMessage HttpReply
    (CapState ε σ)) : Prop where
  unasked : ∀ s v, t.state ≠ .app s v
  nothing : ∀ x, Event.received x ∉ t.log
  answer : sentIn t.log <+: tooLargeReply
  whole : ∀ {limit} {next : AsgiApp ε σ},
    bodySizeLimit limit next t.state = .finish → sentIn t.log = tooLargeReply

theorem run_declared
    {t : Dialogue (Raised ε) HttpMessage HttpReply (CapState ε σ)}
    (h : Run (dialogueStep (bodySizeLimit limit next)) (fun _ _ => True)
      ⟨.rejecting tooLargeReply .atEnd {}, []⟩ t) : Declared t := by
  have hinv := h.inv
    (P := fun t => (∀ x, Event.received x ∉ t.log) ∧
      sentIn t.log <+: tooLargeReply ∧
      ((∃ e, t.state = .failed e) ∨
        ∃ left v, t.state = .rejecting left .atEnd v ∧
          sentIn t.log ++ left = tooLargeReply))
    (fun t a t' ⟨hno, hpre, hstate⟩ _ hs => by
      obtain ⟨state, log⟩ := t
      rcases hstate with ⟨e, rfl⟩ | ⟨left, v, rfl, hleft⟩
      · rcases dialogueStep_cases hs with ⟨k', x, -, hask, -⟩ |
          ⟨o', k', r, -, hask, -⟩ | ⟨s', -, hask, -⟩ <;>
          simp only [bodySizeLimit, reduceCtorEq] at hask
      · cases left with
        | nil =>
            rcases dialogueStep_cases hs with ⟨k', x, -, hask, -⟩ |
              ⟨o', k', r, -, hask, -⟩ | ⟨s', -, hask, -⟩ <;>
              simp only [bodySizeLimit, reduceCtorEq] at hask
        | cons o left =>
            rcases dialogueStep_cases hs with ⟨k', x, -, hask, -⟩ |
              ⟨o', k', r, -, hask, rfl⟩ | ⟨s', -, hask, -⟩
            · simp only [bodySizeLimit, reduceCtorEq] at hask
            · simp only [bodySizeLimit, Ask.send.injEq] at hask
              obtain ⟨rfl, rfl⟩ := hask
              have hsent : sentIn (log ++ [Event.sent o r])
                  = sentIn log ++ [o] := sentIn_append ..
              have hleft' : sentIn (log ++ [Event.sent o r]) ++ left
                  = tooLargeReply := by
                rw [hsent, List.append_assoc]
                exact hleft
              refine ⟨by simpa using hno, ⟨left, hleft'⟩, ?_⟩
              cases r with
              | ok _ => exact .inr ⟨left, v, rfl, hleft'⟩
              | error e => exact .inl ⟨e, rfl⟩
            · simp only [bodySizeLimit, reduceCtorEq] at hask)
    ⟨fun _ => List.not_mem_nil, ⟨tooLargeReply, rfl⟩, .inr ⟨_, _, rfl, rfl⟩⟩
  obtain ⟨hno, hpre, hstate⟩ := hinv
  refine ⟨fun s v hs => ?_, hno, hpre, fun {limit next} hfinish => ?_⟩
  · rcases hstate with ⟨e, he⟩ | ⟨left, w, hleft, -⟩
    · rw [he] at hs
      cases hs
    · rw [hleft] at hs
      cases hs
  obtain ⟨e, he⟩ | ⟨left, v, hleft, hsent⟩ := hstate
  · rw [he] at hfinish
    cases hfinish
  · rw [hleft] at hfinish
    cases left with
    | nil => rwa [List.append_nil] at hsent
    | cons o left => cases hfinish

theorem bodySizeLimitStart_fits {caps : BodyCaps} {scope : HttpScope}
    (hhttp : scope.isHttp = true) (hd : DeclaredFits caps scope)
    (valueError : ε) (s : σ) :
    bodySizeLimitStart caps valueError scope s = .app s {} := by
  unfold bodySizeLimitStart
  simp only [hhttp, Bool.not_true, Bool.false_eq_true, if_false,
    Bool.and_eq_true, decide_eq_true_eq]
  rw [if_neg fun h => Nat.not_lt.mpr (hd h.1).1 h.2,
    if_neg fun h => Nat.not_lt.mpr (hd h.1).2 h.2]

theorem bodySizeLimitStart_unreadable {caps : BodyCaps} {scope : HttpScope}
    (hhttp : scope.isHttp = true)
    (hdigit : bytesIsDigit (declaredLength scope.headers) = true)
    (hlong : maxStrDigits < (declaredLength scope.headers).length)
    (valueError : ε) (s : σ) :
    bodySizeLimitStart caps valueError scope s = .failed (.other valueError) := by
  unfold bodySizeLimitStart
  simp only [hhttp, hdigit, Bool.not_true, Bool.false_eq_true, if_false,
    Bool.true_and, decide_eq_true_eq]
  rw [if_pos hlong]

theorem bodySizeLimitStart_tooLarge {caps : BodyCaps} {scope : HttpScope}
    (hhttp : scope.isHttp = true)
    (hdigit : bytesIsDigit (declaredLength scope.headers) = true)
    (hshort : (declaredLength scope.headers).length ≤ maxStrDigits)
    (hcap : limitFor caps scope.path < bytesToNat (declaredLength scope.headers))
    (valueError : ε) (s : σ) :
    bodySizeLimitStart caps valueError scope s
      = .rejecting tooLargeReply .atEnd {} := by
  unfold bodySizeLimitStart
  simp only [hhttp, hdigit, Bool.not_true, Bool.false_eq_true, if_false,
    Bool.true_and, decide_eq_true_eq]
  rw [if_neg (Nat.not_lt.mpr hshort), if_pos hcap]

/-- A call that `int` has ended goes nowhere. -/
theorem run_unreadable {e : Raised ε}
    {t : Dialogue (Raised ε) HttpMessage HttpReply (CapState ε σ)}
    (h : Run (dialogueStep (bodySizeLimit limit next)) (fun _ _ => True)
      ⟨.failed e, []⟩ t) : t = ⟨.failed e, []⟩ := by
  refine h.inv (P := fun t => t = ⟨.failed e, []⟩) ?_ rfl
  rintro t a t' rfl - hs
  rcases dialogueStep_cases hs with ⟨k', x, -, hask, -⟩ |
    ⟨o', k', r, -, hask, -⟩ | ⟨s', -, hask, -⟩ <;>
    simp only [bodySizeLimit, reduceCtorEq] at hask

/-- **No request body gets past its cap.** A call whose declared length is
over the cap is answered 413 without the application, one with a length that
`int` does not read ends with its exception; in every other run the
application is told at most as many bytes as the cap allows, is left alone
while the body fits, and is cut off when it does not. -/
theorem bodySizeLimit_caps (caps : BodyCaps) (valueError : ε)
    (scope : HttpScope) (hhttp : scope.isHttp = true) (next : AsgiApp ε σ)
    (s : σ) (t : Dialogue (Raised ε) HttpMessage HttpReply (CapState ε σ))
    (h : Run (dialogueStep (bodySizeLimit (limitFor caps scope.path) next))
      (fun _ _ => True)
      ⟨bodySizeLimitStart caps valueError scope s, []⟩ t) :
    let declared := declaredLength scope.headers
    (bytesIsDigit declared = true → maxStrDigits < declared.length →
      t = ⟨.failed (.other valueError), []⟩) ∧
    (bytesIsDigit declared = true → declared.length ≤ maxStrDigits →
      limitFor caps scope.path < bytesToNat declared → Declared t) ∧
    (DeclaredFits caps scope →
      ∃ u, Run (dialogueStep next) (fun _ _ => True) ⟨s, []⟩ u ∧
        Capped (limitFor caps scope.path) next t u) := by
  refine ⟨fun hdigit hlong => ?_, fun hdigit hshort hcap => ?_, fun hd => ?_⟩
  · rw [bodySizeLimitStart_unreadable hhttp hdigit hlong] at h
    exact run_unreadable h
  · rw [bodySizeLimitStart_tooLarge hhttp hdigit hshort hcap] at h
    exact run_declared h
  · rw [bodySizeLimitStart_fits hhttp hd] at h
    exact run_capped h

/-! ### A body that fits -/

/-- The bytes of body in what the other side says. -/
def arriving : List (Answer (Raised ε) HttpMessage) → Nat
  | [] => 0
  | .message (.ok m) :: acts => m.bodyLength + arriving acts
  | _ :: acts => arriving acts

/-- The call of the middleware beside a run of the application. -/
def beside (u : Dialogue (Raised ε) HttpMessage HttpReply σ) :
    Dialogue (Raised ε) HttpMessage HttpReply (CapState ε σ) :=
  ⟨.app u.state ⟨bodyBytes u.log, false, responded u.log⟩, u.log⟩

/-- **One exchange**, while the body fits. -/
theorem dialogueStep_beside (u : Dialogue (Raised ε) HttpMessage HttpReply σ)
    (a : Answer (Raised ε) HttpMessage)
    (hfits : bodyBytes u.log + arriving [a] ≤ limit) :
    dialogueStep (bodySizeLimit limit next) (beside u) a
      = (dialogueStep next u a).map beside := by
  obtain ⟨s, log⟩ := u
  have hreceived : ∀ x : Except (Raised ε) HttpMessage,
      responded (log ++ [.received x]) = responded log := fun x => by
    rw [responded_append]
    exact Bool.or_false _
  have hsent : ∀ o r, bodyBytes (log ++ [.sent o r]) = bodyBytes log :=
    fun o r => bodyBytes_append ..
  cases a with
  | message x =>
      cases hk : next s with
      | receive k =>
          have hout : dialogueStep (bodySizeLimit limit next) (beside ⟨s, log⟩)
              (.message x) = some ⟨limitedReceive limit k
                ⟨bodyBytes log, false, responded log⟩ x,
                log ++ [.received x]⟩ :=
            dialogueStep_message (by simp only [beside, bodySizeLimit, hk])
          rw [hout, dialogueStep_message hk]
          match x with
          | .error e =>
              simp only [limitedReceive, Option.map_some, beside, hreceived,
                bodyBytes_append]
              rfl
          | .ok .disconnect =>
              simp only [limitedReceive, Option.map_some, beside, hreceived,
                bodyBytes_append]
              rfl
          | .ok (.request body more) =>
              have hle : bodyBytes log
                  + (HttpMessage.request body more).bodyLength ≤ limit := hfits
              simp only [limitedReceive, Option.map_some, beside, hreceived,
                bodyBytes_append, if_neg (Nat.not_lt.mpr hle)]
              rfl
      | fail e => cases e <;> simp [dialogueStep, beside, bodySizeLimit, hk, afterApp]
      | _ => simp [dialogueStep, beside, bodySizeLimit, hk, guardedSend, afterApp]
  | written r =>
      cases hk : next s with
      | send o k =>
          have hout : dialogueStep (bodySizeLimit limit next) (beside ⟨s, log⟩)
              (.written r) = some ⟨.app (k r) ⟨bodyBytes log, false,
                responded log || o.isStart⟩, log ++ [.sent o r]⟩ :=
            dialogueStep_written
              (k := fun r => CapState.app (k r) ⟨bodyBytes log, false,
                responded log || o.isStart⟩)
              (by simp [beside, bodySizeLimit, hk, guardedSend])
          rw [hout, dialogueStep_written hk]
          simp only [Option.map_some, beside, hsent, responded_append]
          exact congrArg (fun b => some (Dialogue.mk (CapState.app (k r)
            ⟨bodyBytes log, false, responded log || b⟩) _)) (Bool.or_false _).symm
      | fail e => cases e <;> simp [dialogueStep, beside, bodySizeLimit, hk, afterApp]
      | _ => simp [dialogueStep, beside, bodySizeLimit, hk, afterApp]
  | idle =>
      cases hk : next s with
      | fail e => cases e <;> simp [dialogueStep, beside, bodySizeLimit, hk, afterApp]
      | _ => simp [dialogueStep, beside, bodySizeLimit, hk, guardedSend, afterApp]

/-- What an exchange adds to the body. -/
theorem bodyBytes_step {u u' : Dialogue (Raised ε) HttpMessage HttpReply σ}
    {a : Answer (Raised ε) HttpMessage} (h : dialogueStep next u a = some u') :
    bodyBytes u'.log = bodyBytes u.log + arriving [a] := by
  rcases dialogueStep_cases h with ⟨k, x, rfl, -, rfl⟩ |
    ⟨o, k, r, rfl, -, rfl⟩ | ⟨s, rfl, -, rfl⟩
  · dsimp only
    rw [bodyBytes_append]
    cases x <;> rfl
  · exact bodyBytes_append ..
  · rfl

theorem arriving_cons (a : Answer (Raised ε) HttpMessage)
    (acts : List (Answer (Raised ε) HttpMessage)) :
    arriving (a :: acts) = arriving [a] + arriving acts := by
  match a with
  | .message (.ok m) => simp [arriving]
  | .message (.error e) => simp [arriving]
  | .written r => simp [arriving]
  | .idle => simp [arriving]

/-- A sequence of exchanges, while the body fits. -/
theorem runActs_beside (acts : List (Answer (Raised ε) HttpMessage))
    (u : Dialogue (Raised ε) HttpMessage HttpReply σ)
    (hfits : bodyBytes u.log + arriving acts ≤ limit) :
    runActs (dialogueStep (bodySizeLimit limit next)) (beside u) acts
      = (runActs (dialogueStep next) u acts).map beside := by
  induction acts generalizing u with
  | nil => rfl
  | cons a acts ih =>
      rw [arriving_cons, ← Nat.add_assoc] at hfits
      rw [runActs, runActs, dialogueStep_beside u a
        (Nat.le_trans (Nat.le_add_right _ _) hfits)]
      cases hs : dialogueStep next u a with
      | none => rfl
      | some u' => exact ih u' (by rwa [bodyBytes_step hs])

/-- **The middleware is not there for a body that fits**: where the declared
length is within the cap and the bytes stay within it, whatever the server
says, the call is the run of the application, exchange by exchange, and ends
as it ends. -/
theorem bodySizeLimit_transparent (caps : BodyCaps) (valueError : ε)
    (scope : HttpScope) (hhttp : scope.isHttp = true)
    (hdeclared : DeclaredFits caps scope) (next : AsgiApp ε σ) (s : σ)
    (acts : List (Answer (Raised ε) HttpMessage))
    (hfits : arriving acts ≤ limitFor caps scope.path) :
    runActs (dialogueStep (bodySizeLimit (limitFor caps scope.path) next))
        ⟨bodySizeLimitStart caps valueError scope s, []⟩ acts
        = (runActs (dialogueStep next) ⟨s, []⟩ acts).map beside ∧
      ∀ v, runActs (dialogueStep next) ⟨s, []⟩ acts = some v →
        (next v.state = .finish →
          bodySizeLimit (limitFor caps scope.path) next (beside v).state
            = .finish) ∧
        ∀ e, next v.state = .fail (.other e) →
          bodySizeLimit (limitFor caps scope.path) next (beside v).state
            = .fail (.other e) := by
  rw [bodySizeLimitStart_fits hhttp hdeclared]
  refine ⟨runActs_beside acts ⟨s, []⟩ ?_, fun v _ => ⟨fun hk => ?_, fun e hk => ?_⟩⟩
  · exact (Nat.zero_add _).symm ▸ hfits
  · simp [beside, bodySizeLimit, hk, afterApp]
  · simp [beside, bodySizeLimit, hk]

end

/-! ### An upload -/

/-- An application that reads one message and answers 200. -/
def readsOnce : AsgiApp Unit Nat
  | 0 => .receive fun
      | .ok _ => 1
      | .error _ => 3
  | 1 => .send (.start 200 []) fun _ => 2
  | 2 => .send (.body "" false) fun _ => 4
  | 3 => .fail .bodyTooLarge
  | _ => .finish

/-- A body of three bytes, and the client takes what it is told. -/
def threeBytes : List (Answer (Raised Unit) HttpMessage) :=
  [.message (.ok (.request (some [1, 2, 3]) false)), .idle, .written (.ok ()),
    .written (.ok ())]

/-- Under a cap of two bytes it is answered 413, and the application is told
nothing of it. -/
theorem threeBytes_capped :
    ∃ t u, runActs (dialogueStep (bodySizeLimit 2 readsOnce)) ⟨.app 0 {}, []⟩
        threeBytes = some t ∧
      Run (dialogueStep readsOnce) (fun _ _ => True) ⟨0, []⟩ u ∧
      Capped 2 readsOnce t u ∧ sentIn t.log = tooLargeReply := by
  obtain ⟨t, ht⟩ : ∃ t, runActs (dialogueStep (bodySizeLimit 2 readsOnce))
      ⟨.app 0 {}, []⟩ threeBytes = some t := ⟨_, rfl⟩
  obtain ⟨u, hrun, hcap⟩ := (bodySizeLimit_caps ⟨2, 6⟩ () ⟨true, "/calls", []⟩
    rfl readsOnce 0 t (.of_runActs ht)).2.2 (fun h => by cases h)
  refine ⟨t, u, ht, hrun, hcap, ?_⟩
  cases ht
  rfl

/-- The same where the body fits. -/
def threeBytesFit : List (Answer (Raised Unit) HttpMessage) :=
  [.message (.ok (.request (some [1, 2, 3]) false)), .written (.ok ()),
    .written (.ok ())]

/-- Under a cap of three bytes, with the length declared, the call is the
application's. -/
theorem threeBytes_transparent :
    runActs (dialogueStep (bodySizeLimit 3 readsOnce))
        ⟨bodySizeLimitStart ⟨3, 6⟩ () ⟨true, "/calls",
          [("content-length", [51])]⟩ 0, []⟩ threeBytesFit
      = (runActs (dialogueStep readsOnce) ⟨0, []⟩ threeBytesFit).map beside :=
  (bodySizeLimit_transparent ⟨3, 6⟩ () ⟨true, "/calls",
    [("content-length", [51])]⟩ rfl (fun _ => by decide) readsOnce 0
    threeBytesFit (by decide)).1

end CallingAgent
