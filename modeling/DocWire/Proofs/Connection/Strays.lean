import DocWire.Proofs.Connection.HangUp
import DocWire.Transport.Scripted

/-! Frames whose bodies name no request that waits are reported and taken off the stream, and
nothing else changes. So the replies are handed out as if these frames had never come. -/

namespace DocWire

/-- In a state that `Holds` some pieces, reads of at most `n` bytes without a deadline hand these
over, one at a time; a piece may be empty. Looking at the clock changes nothing of that, and the
patience of a wait lasts for all of them. -/
structure Deals {σ : Type} [Transport σ] (n : Nat) (Holds : σ → List Bytes → Prop) : Prop where
  piece : ∀ {t piece pieces}, Holds t (piece :: pieces) →
    (Transport.read n none t).1 = .ok piece ∧ Holds (Transport.read n none t).2 pieces
  look : ∀ {t pieces}, Holds t pieces → Holds (Transport.now t).2 pieces
  patient : ∀ {t pieces}, Holds t pieces → pieces.length < Transport.patience t

/-- The script prescribes that the next reads bring these pieces. -/
def Script.Brings (s : Script) (pieces : List Bytes) : Prop :=
  s.reads = pieces.map .ok

theorem Script.deals (n : Nat) : Deals n Brings where
  piece {s piece pieces} h := by
    change s.reads = .ok piece :: pieces.map .ok at h
    change s.read.1 = .ok piece ∧ s.read.2.reads = _
    rw [Script.read, h]
    exact ⟨rfl, rfl⟩
  look h := h
  patient {s pieces} h := by
    have hLength : s.reads.length = pieces.length := by
      rw [show s.reads = _ from h, List.length_map]
    show pieces.length < s.reads.length + s.bytes.length + 2
    omega

/-- The body begins with no id that waits and its space. -/
def AnswersNobody (p : Pending) (body : Bytes) : Prop :=
  ∀ id ∈ p.ids, ¬ Utf8.encode id ++ [Bytes.space] <+: body

instance (p : Pending) (body : Bytes) : Decidable (AnswersNobody p body) :=
  inferInstanceAs (Decidable (∀ id ∈ p.ids, ¬ Utf8.encode id ++ [Bytes.space] <+: body))

/-- A frame that comes. -/
inductive Incoming where
  /-- A reply to a request that waits. -/
  | due (d : Due)
  /-- A body that answers nobody, with spaces in front of its frame. -/
  | stray (gap : Nat) (body : Bytes)

/-- What can be seen of an operation from outside. -/
structure Effect where
  ending : Ending Returned
  deliveries : List Delivery
  pending : Pending

def Outcome.effect {σ : Type} (o : Outcome σ Returned) : Effect :=
  ⟨o.ending, deliveries o.trace, o.connection.pending⟩

namespace Incoming

def isDue : Incoming → Bool
  | .due _ => true
  | .stray .. => false

def gap : Incoming → Nat
  | .due d => d.gap
  | .stray gap _ => gap

def body : Incoming → Bytes
  | .due d => d.message.message.body
  | .stray _ body => body

/-- How the protocol is broken by a body that answers nobody. -/
def fault (body : Bytes) : ProtocolFault :=
  match Reply.decode? body with
  | none => .noId
  | some reply => .unknownId reply.id

/-- What a check makes of the frame while these requests wait: a reply is handed out, and any other
frame is reported and changes nothing. -/
def effect (p : Pending) : Incoming → Effect
  | .due d => ⟨.returned (.dispatched true), [d.delivery], p.erase d.id⟩
  | .stray _ body => ⟨.failed (.protocol (fault body)), [], p⟩

/-- The frame is what it is said to be while these requests wait. -/
def Fits (p : Pending) : Incoming → Prop
  | .due d => (d.id, d.recipient) ∈ p
  | .stray _ body => AnswersNobody p body

instance (p : Pending) : (f : Incoming) → Decidable (f.Fits p)
  | .due d => inferInstanceAs (Decidable ((d.id, d.recipient) ∈ p))
  | .stray _ body => inferInstanceAs (Decidable (AnswersNobody p body))

end Incoming

/-- The bytes of frames that follow one another. -/
def arriving (frames : List Incoming) : Bytes :=
  frames.flatMap fun f => List.replicate f.gap Bytes.space ++ Frame.encode f.body

/-- The effects of frames that are checked for one after the other. -/
def effects (p : Pending) : List Incoming → List Effect
  | [] => []
  | f :: frames => f.effect p :: effects (f.effect p).pending frames

/-- Who still waits after the frames. -/
def remaining (p : Pending) (frames : List Incoming) : Pending :=
  frames.foldl (fun p f => (f.effect p).pending) p

/-- Each frame is what it is said to be when it is reached. -/
def AllFit (p : Pending) : List Incoming → Prop
  | [] => True
  | f :: frames => f.Fits p ∧ AllFit (f.effect p).pending frames

def decideAllFit (p : Pending) : (frames : List Incoming) → Decidable (AllFit p frames)
  | [] => isTrue trivial
  | f :: frames =>
    have := decideAllFit (f.effect p).pending frames
    inferInstanceAs (Decidable (f.Fits p ∧ AllFit (f.effect p).pending frames))

instance (p : Pending) (frames : List Incoming) : Decidable (AllFit p frames) :=
  decideAllFit p frames

section Replies

variable {p : Pending} {frames : List Incoming}

/-- The replies fit when the other frames are left out. -/
theorem AllFit.replies (h : AllFit p frames) : AllFit p (frames.filter Incoming.isDue) := by
  induction frames generalizing p with
  | nil => trivial
  | cons f frames ih =>
      obtain ⟨hFits, hRest⟩ := h
      cases f with
      | due d => exact ⟨hFits, ih hRest⟩
      | stray gap body => exact ih hRest

theorem remaining_replies (p : Pending) (frames : List Incoming) :
    remaining p (frames.filter Incoming.isDue) = remaining p frames := by
  induction frames generalizing p with
  | nil => rfl
  | cons f frames ih =>
      cases f with
      | due d => exact ih (p.erase d.id)
      | stray gap body => exact ih p

theorem deliveries_effects_replies (p : Pending) (frames : List Incoming) :
    (effects p (frames.filter Incoming.isDue)).flatMap Effect.deliveries =
      (effects p frames).flatMap Effect.deliveries := by
  induction frames generalizing p with
  | nil => rfl
  | cons f frames ih =>
      cases f with
      | due d => exact congrArg (d.delivery :: ·) (ih (p.erase d.id))
      | stray gap body => exact ih p

end Replies

namespace Connection

variable {σ : Type} {Holds : σ → List Bytes → Prop} {c c' : Connection σ} {f : Incoming}
  {frames : List Incoming} {body more : Bytes} {pieces : List Bytes} {gap : Nat}

/-- A body that answers nobody breaks the protocol and changes nothing. Bytes that are no text are
read tolerantly, but not as a number. -/
theorem dispatch_stray (h : AnswersNobody c.pending body) (hOrderly : c.Orderly) :
    c.dispatch body = c.finish (.failed (.protocol (Incoming.fault body))) := by
  unfold dispatch Incoming.fault
  cases hReply : Reply.decode? body with
  | none => rfl
  | some reply =>
      cases hLookup : c.pending.lookup reply.id with
      | none => simp only [hLookup]
      | some r =>
          exfalso
          obtain ⟨⟨before, after⟩, hSplit, rfl⟩ := Option.map_eq_some_iff.1 hReply
          have hWaits := Pending.mem_ids (Pending.mem_of_lookup hLookup)
          obtain ⟨n, -, hText⟩ := hOrderly.numbered _ hWaits
          apply h _ hWaits
          rw [hText, Decimal.encode_text_of_decodeLossy hText, Bytes.eq_of_splitAtSpace? hSplit]
          exact ⟨after, by simp⟩

/-- The frame is dispatched as its effect says, and nothing but the table changes. -/
theorem dispatch_incoming (h : f.Fits c.pending) (hOrderly : c.Orderly) (hGentle : c.Gentle) :
    ((c.dispatch f.body).map Returned.dispatched).effect = f.effect c.pending ∧
      (c.dispatch f.body).connection = { c with pending := (f.effect c.pending).pending } := by
  cases f with
  | due d =>
      rw [show Incoming.body (.due d) = d.message.message.body from rfl,
        dispatch_due hOrderly hGentle h]
      exact ⟨rfl, rfl⟩
  | stray gap body =>
      rw [show Incoming.body (.stray gap body) = body from rfl, dispatch_stray h hOrderly]
      exact ⟨rfl, rfl⟩

/-- How a poll goes on a stream that begins with a frame of which everything comes: it reads until
the frame is there and dispatches it. -/
inductive Took (Holds : σ → List Bytes → Prop) (c : Connection σ) (body more : Bytes) :
    Outcome σ Bool → Prop where
  | intro (c' : Connection σ) (events : List Event) (pieces : List Bytes) (hSame : Hears c c')
      (hHolds : Holds c'.transport pieces) (hAhead : c'.decoder.Ahead pieces.flatten more)
      (hQuiet : deliveries events = []) : Took Holds c body more ((c'.dispatch body).after events)

theorem Took.after {o : Outcome σ Bool} {events : List Event} (h : Took Holds c' body more o)
    (hSame : Hears c c') (hQuiet : deliveries events = []) :
    Took Holds c body more (o.after events) := by
  obtain ⟨c'', later, pieces, hSame', hHolds, hAhead, hLater⟩ := h
  rw [Outcome.after_after]
  exact Took.intro c'' _ pieces (hSame.trans hSame') hHolds hAhead
    (deliveries_eq_nil_append hQuiet hLater)

/-- Events without a response are not seen in the effect. -/
theorem effect_after {o : Outcome σ Bool} {events : List Event} (hQuiet : deliveries events = []) :
    ((o.after events).map Returned.dispatched).effect = (o.map Returned.dispatched).effect := by
  have hSilent : deliveries (events ++ o.trace) = deliveries o.trace := by
    rw [deliveries_append, hQuiet]
    rfl
  exact congrArg (fun ds => (⟨_, ds, _⟩ : Effect)) hSilent

variable [Transport σ]

/-- In a state that holds some pieces, a poll that has read before or has not gets them with its
reads, one at a time, and the deadline has not come when it looks. -/
def Feeds (n : Nat) (deadline : Option Instant) (Feed : (polled : Bool) → σ → List Bytes → Prop) :
    Prop :=
  ∀ {polled t piece pieces}, Feed polled t (piece :: pieces) →
    ∃ t' t'', Looks (if polled then deadline else none) t false t' ∧
      Transport.read n deadline t' = (.ok piece, t'') ∧ Feed true t'' pieces

/-- A poll that gets all pieces of a frame dispatches its body. -/
theorem Polling.took {n rounds : Nat} {deadline : Option Instant} {polled : Bool}
    {Feed : (polled : Bool) → σ → List Bytes → Prop} (hFeeds : Feeds n deadline Feed)
    (hFeed : ∀ {polled t pieces}, Feed polled t pieces → Holds t pieces)
    (hSize : body.length ≤ Frame.maxSize) {o : Outcome σ Bool}
    (h : Polling deadline rounds polled c o) (hChunk : c.readChunk = n)
    (hBrings : Feed polled c.transport pieces) (hRounds : pieces.length < rounds)
    (hAhead : c.decoder.Ahead pieces.flatten
      (List.replicate gap Bytes.space ++ (Frame.encode body ++ more))) :
    Took Holds c body more o := by
  induction h generalizing pieces with
  | stalled => omega
  | fault rounds polled c f hNext =>
      rcases Frame.Decoder.next_of_frame hAhead hSize with ⟨hWaits, -⟩ | ⟨hTakes, -⟩
      · cases hNext.symm.trans hWaits
      · cases hNext.symm.trans hTakes
  | body rounds polled c body' hNext =>
      rcases Frame.Decoder.next_of_frame hAhead hSize with ⟨hWaits, -⟩ | ⟨hTakes, hLeft⟩
      · cases hNext.symm.trans hWaits
      · obtain rfl : body' = body := by simpa using hNext.symm.trans hTakes
        exact .intro _ [] pieces ⟨rfl, rfl, rfl, rfl⟩ (hFeed hBrings) hLeft rfl
  | late rounds polled c t hNext hLooks =>
      obtain ⟨piece, pieces, rfl, -⟩ := Frame.Decoder.pieces_of_waiting hAhead hSize hNext
      obtain ⟨t', t'', hEarly, -⟩ := hFeeds hBrings
      cases (hLooks.unique hEarly).1
  | failed rounds polled c t t' e hNext hLooks hRead =>
      obtain ⟨piece, pieces, rfl, -⟩ := Frame.Decoder.pieces_of_waiting hAhead hSize hNext
      obtain ⟨t₁, t₂, hEarly, hPiece, -⟩ := hFeeds hBrings
      obtain ⟨-, rfl⟩ := hLooks.unique hEarly
      subst hChunk
      cases hRead.symm.trans hPiece
  | more rounds polled c t t' chunk o hNext hLooks hRead rest ih =>
      obtain ⟨piece, pieces, rfl, hLeft⟩ := Frame.Decoder.pieces_of_waiting hAhead hSize hNext
      obtain ⟨t₁, t₂, hEarly, hPiece, hRest⟩ := hFeeds hBrings
      obtain ⟨-, rfl⟩ := hLooks.unique hEarly
      subst hChunk
      cases hRead.symm.trans hPiece
      have hGoesOn := ih rfl hRest (Nat.lt_of_succ_lt_succ hRounds)
        (Frame.Decoder.ahead_push.2 hLeft)
      exact hGoesOn.after ⟨rfl, rfl, rfl, rfl⟩ rfl

theorem Deals.feeds {n : Nat} (h : Deals n Holds) : Feeds n none fun _ => Holds := by
  intro polled t piece pieces hHolds
  obtain ⟨hAnswer, hRest⟩ := h.piece hHolds
  refine ⟨t, _, ?_, Prod.ext hAnswer rfl, hRest⟩
  cases polled <;> exact .unlimited t

theorem check_took (hDeals : Deals c.readChunk Holds) (hOpen : c.closed = false)
    (hSize : body.length ≤ Frame.maxSize) (hHolds : Holds c.transport pieces)
    (hAhead : c.decoder.Ahead pieces.flatten
      (List.replicate gap Bytes.space ++ (Frame.encode body ++ more))) :
    Took Holds c body more (c.check none) := by
  have hLooked := hDeals.look hHolds
  have hPolling := pollWithin_polling none (Transport.patience c.now.2.transport) false c.now.2
  have hTook := hPolling.took (Deals.feeds hDeals) id hSize rfl hLooked (hDeals.patient hLooked)
    hAhead
  rw [check_of_open hOpen]
  exact hTook.after ⟨rfl, rfl, rfl, rfl⟩ rfl

/-- An open connection on which the frames are about to come. -/
structure Receiving (Holds : σ → List Bytes → Prop) (c : Connection σ) (frames : List Incoming) :
    Prop where
  isOpen : c.closed = false
  orderly : c.Orderly
  gentle : c.Gentle
  deals : Deals c.readChunk Holds
  sizes : ∀ f ∈ frames, f.body.length ≤ Frame.maxSize
  fit : AllFit c.pending frames
  arrives : ∃ pieces, Holds c.transport pieces ∧ c.decoder.Ahead pieces.flatten (arriving frames)

/-- The next check has the effect of the next frame, and the others are still to come. -/
theorem Receiving.check (h : Receiving Holds c (f :: frames)) :
    (c.perform (.check none)).effect = f.effect c.pending ∧
      Receiving Holds (c.perform (.check none)).connection frames := by
  obtain ⟨pieces, hHolds, hAhead⟩ := h.arrives
  obtain ⟨hFits, hRest⟩ := h.fit
  obtain ⟨hSize, hSizes⟩ := List.forall_mem_cons.1 h.sizes
  have hStream : arriving (f :: frames) = List.replicate f.gap Bytes.space ++
      (Frame.encode f.body ++ arriving frames) := by
    simp [arriving]
  rw [hStream] at hAhead
  have hCourse := (c.check_follows none).course
  have hOrderly := hCourse.orderly h.orderly
  have hGentle := (hCourse.gentle h.gentle fun t ht => absurd ht List.not_mem_nil).2
  have hTook := check_took h.deals h.isOpen hSize hHolds hAhead
  change ((c.check none).map Returned.dispatched).effect = _ ∧
    Receiving Holds (c.check none).connection frames
  generalize c.check none = o at hTook hOrderly hGentle ⊢
  obtain ⟨c', events, pieces', hSame, hHolds', hAhead', hQuiet⟩ := hTook
  have hOrderly' := h.orderly.of_eq hSame.pending hSame.nextId hSame.closed
  have hGentle' := h.gentle.of_eq hSame.pending
  obtain ⟨hEffect, hAfter⟩ := dispatch_incoming (hSame.pending ▸ hFits) hOrderly' hGentle'
  rw [hSame.pending] at hEffect hAfter
  rw [effect_after hQuiet]
  apply And.intro hEffect
  change Receiving Holds (c'.dispatch f.body).connection frames
  change (c'.dispatch f.body).connection.Orderly at hOrderly
  change (c'.dispatch f.body).connection.Gentle at hGentle
  rw [hAfter] at hOrderly hGentle ⊢
  exact ⟨hSame.closed.trans h.isOpen, hOrderly, hGentle, hSame.readChunk ▸ h.deals, hSizes, hRest,
    ⟨pieces', hHolds', hAhead'⟩⟩

/-- As many checks as there are frames have the effects of these, one after the other. -/
theorem Receiving.run (h : Receiving Holds c frames) :
    let checks := List.replicate frames.length (.call (.check none))
    (c.outcomes checks).map Outcome.effect = effects c.pending frames ∧
      (c.afterwards checks).pending = remaining c.pending frames ∧
      Receiving Holds (c.afterwards checks) [] := by
  induction frames generalizing c with
  | nil => exact ⟨rfl, rfl, h⟩
  | cons f frames ih =>
      obtain ⟨hEffect, hNext⟩ := h.check
      have hPending : (c.perform (.check none)).connection.pending = (f.effect c.pending).pending :=
        congrArg Effect.pending hEffect
      obtain ⟨hEffects, hRemaining, hEnd⟩ := ih hNext
      rw [hPending] at hEffects hRemaining
      refine ⟨?_, hRemaining, hEnd⟩
      show _ :: _ = _ :: _
      rw [← hEffects, ← hEffect]
      rfl

/-- Once all frames have been taken the decoder is as it was before the first byte. -/
theorem Receiving.decoder (h : Receiving Holds c []) : c.decoder = .empty := by
  obtain ⟨pieces, -, hAhead⟩ := h.arrives
  exact hAhead.eq_empty

theorem deliveries_traceOf (c : Connection σ) (steps : List (Step σ)) :
    deliveries (c.traceOf steps) =
      ((c.outcomes steps).map Outcome.effect).flatMap Effect.deliveries := by
  rw [traceOf, deliveries, List.filterMap_flatMap, List.flatMap_map]
  rfl

/-- An open connection, reached in any way without aborting callbacks, whose decoder is between
messages and holds nothing, over any transport that brings its bytes in pieces of any size. If these
are replies to different requests that wait, in any order, with frames among them that answer
nobody when they are reached, then each check takes one frame: it hands out a reply, and it reports
any other frame, hands out nothing and leaves the requests alone. In the end the same responses have
been handed out in the same order as where the replies come alone, the same requests wait, and the
decoder is in the same state. -/
theorem strays_change_nothing (transport : σ) (readChunk : Nat) (steps : List (Step σ))
    (hReached : (withReadChunk readChunk transport).afterwards steps = c)
    (hCalm : ∀ step ∈ steps, step.Calm) (hOpen : c.closed = false) (hBetween : c.decoder = .empty)
    (hDeals : Deals c.readChunk Holds) (frames : List Incoming)
    (hSizes : ∀ f ∈ frames, f.body.length ≤ Frame.maxSize) (hFit : AllFit c.pending frames)
    (t t' : σ) (pieces pieces' : List Bytes) (hMixed : Holds t pieces) (hAlone : Holds t' pieces')
    (hPieces : pieces.flatten = arriving frames)
    (hPieces' : pieces'.flatten = arriving (frames.filter Incoming.isDue)) :
    let replies := frames.filter Incoming.isDue
    let mixed := c.changing fun _ => t
    let alone := c.changing fun _ => t'
    let checks (frames : List Incoming) := List.replicate frames.length (.call (.check none))
    (mixed.outcomes (checks frames)).map Outcome.effect = effects c.pending frames ∧
      deliveries (mixed.traceOf (checks frames)) = deliveries (alone.traceOf (checks replies)) ∧
      (mixed.afterwards (checks frames)).pending = (alone.afterwards (checks replies)).pending ∧
      (mixed.afterwards (checks frames)).decoder = (alone.afterwards (checks replies)).decoder := by
  intro replies mixed alone checks
  have hAccounts := (withReadChunk_accounts readChunk transport).history hCalm
  rw [hReached] at hAccounts
  have hAhead {x s : Bytes} (h : x = s) : c.decoder.Ahead x s := by
    rw [hBetween, h]
    exact Frame.Decoder.ahead_empty s
  have hReceiving : Receiving Holds mixed frames :=
    ⟨hOpen, hAccounts.orderly.of_eq rfl rfl rfl, hAccounts.gentle.of_eq rfl, hDeals, hSizes, hFit,
      ⟨pieces, hMixed, hAhead hPieces⟩⟩
  have hReceiving' : Receiving Holds alone replies :=
    ⟨hOpen, hAccounts.orderly.of_eq rfl rfl rfl, hAccounts.gentle.of_eq rfl, hDeals,
      fun f hf => hSizes f (List.mem_of_mem_filter hf), hFit.replies,
      ⟨pieces', hAlone, hAhead hPieces'⟩⟩
  obtain ⟨hEffects, hRemaining, hEnd⟩ := hReceiving.run
  obtain ⟨hEffects', hRemaining', hEnd'⟩ := hReceiving'.run
  refine ⟨hEffects, ?_, ?_, ?_⟩
  · rw [deliveries_traceOf, deliveries_traceOf]
    exact calc
      ((mixed.outcomes (checks frames)).map Outcome.effect).flatMap Effect.deliveries
      _ = (effects c.pending frames).flatMap Effect.deliveries :=
          congrArg (List.flatMap Effect.deliveries) hEffects
      _ = (effects c.pending replies).flatMap Effect.deliveries :=
          (deliveries_effects_replies c.pending frames).symm
      _ = ((alone.outcomes (checks replies)).map Outcome.effect).flatMap Effect.deliveries :=
          congrArg (List.flatMap Effect.deliveries) hEffects'.symm
  · exact calc
      (mixed.afterwards (checks frames)).pending
      _ = remaining c.pending frames := hRemaining
      _ = remaining c.pending replies := (remaining_replies c.pending frames).symm
      _ = (alone.afterwards (checks replies)).pending := hRemaining'.symm
  · exact hEnd.decoder.trans hEnd'.decoder.symm

/-- Two requests. -/
def twoRequests : List (Step Script) :=
  [.call (.send .get "a" [] ⟨"a", false⟩), .call (.send .get "b" [] ⟨"b", false⟩)]

/-- The replies to both of them, the later one first, among frames with an id that is written
otherwise, with none at all, with bytes that are no text, and with an id that has been answered. -/
def repliesAmongStrays : List Incoming :=
  [.stray 0 (Utf8.encode "00 Sx"), .due ⟨0, "1", .callback ⟨"b", false⟩, Utf8.encode "Syes"⟩,
    .stray 2 (Utf8.encode "zap"), .stray 0 (0xFF :: Utf8.encode " Sx"),
    .due ⟨1, "0", .callback ⟨"a", false⟩, Utf8.encode "Sno"⟩, .stray 0 (Utf8.encode "1 Sagain")]

/-- All of them come in pieces of three bytes, and the replies alone as one. -/
theorem strays_change_nothing_repliesAmongStrays :
    let c := (withReadChunk 4 ({} : Script)).afterwards twoRequests
    let replies := repliesAmongStrays.filter Incoming.isDue
    let mixed := c.changing fun s =>
      { s with reads := (Bytes.pieces 3 (arriving repliesAmongStrays)).map .ok }
    let alone := c.changing fun s => { s with reads := [arriving replies].map .ok }
    let checks := List.replicate repliesAmongStrays.length (.call (.check none))
    let checks' := List.replicate replies.length (.call (.check none))
    let both : Pending := [("1", .callback ⟨"b", false⟩), ("0", .callback ⟨"a", false⟩)]
    (mixed.outcomes checks).map Outcome.effect =
        [⟨.failed (.protocol (.unknownId "00")), [], both⟩,
          ⟨.returned (.dispatched true), [⟨some "1", .callback ⟨"b", false⟩, .text "yes"⟩],
            both.tail⟩,
          ⟨.failed (.protocol .noId), [], both.tail⟩,
          ⟨.failed (.protocol (.unknownId "\uFFFD")), [], both.tail⟩,
          ⟨.returned (.dispatched true), [⟨some "0", .callback ⟨"a", false⟩, .text "no"⟩], []⟩,
          ⟨.failed (.protocol (.unknownId "1")), [], []⟩] ∧
      deliveries (mixed.traceOf checks) = deliveries (alone.traceOf checks') ∧
      (mixed.afterwards checks).pending = (alone.afterwards checks').pending ∧
      (mixed.afterwards checks).decoder = (alone.afterwards checks').decoder := by
  intro c replies mixed alone checks checks' both
  have hPending : c.pending = both := by decide +kernel
  have hSizes : ∀ f ∈ repliesAmongStrays, f.body.length ≤ Frame.maxSize := by
    decide +kernel
  have hFit : AllFit c.pending repliesAmongStrays := by
    rw [hPending]
    decide +kernel
  obtain ⟨hEffects, hRest⟩ := strays_change_nothing ({} : Script) 4 twoRequests rfl
    (by simp [twoRequests, Step.Calm]) (by rfl) (by rfl) (Script.deals _) repliesAmongStrays hSizes
    hFit { c.transport with reads := (Bytes.pieces 3 (arriving repliesAmongStrays)).map .ok }
    { c.transport with reads := [arriving replies].map .ok } _ _ rfl rfl (Bytes.flatten_pieces ..)
    (List.append_nil _)
  apply And.intro _ hRest
  rw [hPending] at hEffects
  exact hEffects.trans (by with_unfolding_all rfl)

end Connection

end DocWire
