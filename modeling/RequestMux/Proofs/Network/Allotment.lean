import Mathlib.Algebra.Group.Nat.Even
import RequestMux.Proofs.Client.Ids
import RequestMux.Proofs.Network.Arising
import RequestMux.Proofs.Network.Correlation
import RequestMux.Proofs.Network.Standing

/-!
# Ids from one source

Callers take ids for their packets from the source from which the connection takes the ids of its
pings.  As long as fewer ids are taken than there are, no two of them are the same, wherever the
source began; and if every request carries an id that was taken for it, no request and no ping ever
meets another one under its id.
-/

namespace RequestMux

namespace SyncSource

/-- The source when so many ids have been taken. -/
def drawn (source : SyncSource) (count : Nat) : SyncSource := ⟨source.next + UInt32.ofNat count⟩

/-- The ids that a source hands out first. -/
def issue (source : SyncSource) (count : Nat) : List UInt32 :=
  (List.range count).map fun place => (source.drawn place).next

theorem drawn_zero (source : SyncSource) : source.drawn 0 = source := by
  simp [drawn]

theorem drawn_drawn (source : SyncSource) (count more : Nat) :
    (source.drawn count).drawn more = source.drawn (count + more) := by
  simp only [drawn, UInt32.ofNat_add, UInt32.add_assoc]

theorem issue_one (source : SyncSource) : source.issue 1 = [source.allocate.1] := by
  simp [issue, drawn_zero, allocate]

theorem issue_add (source : SyncSource) (count more : Nat) :
    source.issue (count + more) = source.issue count ++ (source.drawn count).issue more := by
  simp only [issue, List.range_add, List.map_append, List.map_map, Function.comp_def, drawn_drawn]

theorem length_issue (source : SyncSource) (count : Nat) : (source.issue count).length = count := by
  simp [issue]

/-- As long as not all ids are used up, none is handed out twice, also where they start again at
zero. -/
theorem nodup_issue (source : SyncSource) {count : Nat} (few : count ≤ 2 ^ 32) :
    (source.issue count).Nodup := by
  refine List.Nodup.map_on (fun first member second other same => ?_) List.nodup_range
  have equal : UInt32.ofNat first = UInt32.ofNat second := (UInt32.add_right_inj _).mp same
  have below := Nat.lt_of_lt_of_le (List.mem_range.mp member) few
  have alsoBelow := Nat.lt_of_lt_of_le (List.mem_range.mp other) few
  have numbers := congrArg UInt32.toNat equal
  rwa [UInt32.toNat_ofNat_of_lt' below, UInt32.toNat_ofNat_of_lt' alsoBelow] at numbers

end SyncSource

namespace Network

open Client (Command Connection Effect Engine Outcome Report Stimulus Time Turn askedIn)
open Client.Pending (Entry)

/-- The request that a command in the record makes. -/
def Sight.request? : Sight → Option (UInt32 × Nat)
  | .heard _ (.command command) => command.request?
  | _ => none

/-- The requests that the engine has taken, in a record. -/
def requestsIn (record : List Sight) : List (UInt32 × Nat) := record.filterMap Sight.request?

/-- What may be done with a simulation while callers take ids for their packets. -/
inductive Errand where
  /-- Somebody takes an id from the source, as for every packet that is packed. -/
  | take
  | carry (doing : Doing)
  deriving DecidableEq, Repr

/-- The request that is made: the id that its packet carries, and its ticket. -/
def Operation.request? : Operation → Option (UInt32 × Nat)
  | .write ticket packet => some (packet.header.sync, ticket)
  | .request ticket packet => some (packet.header.sync, ticket)
  | _ => none

def Errand.request? : Errand → Option (UInt32 × Nat)
  | .carry (.operate operation) => operation.request?
  | _ => none

/-- The requests that callers make in some errands. -/
def requestsOf (errands : List Errand) : List (UInt32 × Nat) := errands.filterMap Errand.request?

namespace Simulation

/-- Run an errand. -/
def undertake (simulation : Simulation) : Errand → Simulation
  | .take => simulation.allocate.2
  | .carry doing => simulation.next doing

/-- The simulation after some errands. -/
def along (simulation : Simulation) (errands : List Errand) : Simulation :=
  errands.foldl undertake simulation

/-- The ids that are taken in some errands. -/
def taken (simulation : Simulation) : List Errand → List UInt32
  | [] => []
  | .take :: later => simulation.allocate.1 :: (simulation.undertake .take).taken later
  | .carry doing :: later => (simulation.undertake (.carry doing)).taken later

/-- The ids of the pings, in their order. -/
def pingIds (simulation : Simulation) : List UInt32 := simulation.pings.map Prod.snd

/-- The requests that the engine has taken, and behind them those in the mailbox. -/
def wishes (simulation : Simulation) : List (UInt32 × Nat) :=
  requestsIn simulation.spoken ++ simulation.connection.mailbox.filterMap Command.request?

section Source

variable (simulation : Simulation)

@[simp]
theorem source_see (sight : Sight) : (simulation.see sight).source = simulation.source := rfl

@[simp]
theorem source_wake (task : Task) : (simulation.wake task).source = simulation.source := by
  unfold wake
  split <;> rfl

@[simp]
theorem source_close (number : Nat) : (simulation.close number).source = simulation.source := rfl

@[simp]
theorem source_perform (effect : Effect) :
    (simulation.perform effect).source = simulation.source := by
  cases effect with
  | resolved ticket outcome =>
      simp only [perform, obey, deliver]
      split
      · exact source_wake _ _
      · rfl
  | abandoned ticket =>
      simp only [perform, obey]
      split
      · exact source_wake _ _
      · rfl
  | handed number write => exact source_wake _ _
  | dialed generation => exact source_wake _ _
  | attached number => exact (source_wake _ _).trans (source_wake _ _)
  | _ => rfl

@[simp]
theorem source_accept (reaction : Connection × List Effect) :
    (simulation.accept reaction).source = simulation.source := by
  have performs (effects : List Effect) (simulation : Simulation) :
      (effects.foldl perform simulation).source = simulation.source := by
    induction effects generalizing simulation with
    | nil => rfl
    | cons effect rest ih => exact (ih _).trans (source_perform simulation effect)
  exact performs reaction.2 _

@[simp]
theorem source_report (generation : Nat) (report : Report) :
    (simulation.report generation report).source = simulation.source := by
  unfold Simulation.report
  split
  · exact source_wake _ _
  · rfl

@[simp]
theorem source_acceptSocket (generation : Nat) (plan : Plan) (reportAt : Time) :
    (simulation.acceptSocket generation plan reportAt).source = simulation.source := by
  unfold acceptSocket
  dsimp only
  split
  · rfl
  · split
    · exact source_report _ _ _
    · rfl

@[simp]
theorem source_proceed (attempt : Attempt) :
    (simulation.proceed attempt).source = simulation.source := by
  unfold proceed
  split
  · rfl
  · exact source_acceptSocket _ _ _ _
  · exact source_report _ _ _

theorem source_dial : simulation.dial.source = simulation.source := by
  unfold dial
  split
  · rfl
  · dsimp only
    split
    · split
      · exact source_proceed _ _
      · rfl
    · rfl

theorem source_runReader (number : Nat) :
    (simulation.runReader number).source = simulation.source := by
  have kept (reports : List Report) (generation : Nat) (simulation : Simulation) :
      (reports.foldl (fun simulation report => simulation.report generation report)
        simulation).source = simulation.source := by
    induction reports generalizing simulation with
    | nil => rfl
    | cons report rest ih => exact (ih _).trans (source_report simulation generation report)
  unfold runReader
  split
  · rfl
  · exact kept _ _ _

theorem source_runWriter (number : Nat) :
    (simulation.runWriter number).source = simulation.source := by
  unfold runWriter
  split
  · rfl
  · next socket there =>
      let written := socket.write
      let moved := simulation.onSocket number fun _ => written.socket
      let sent := if written.sent.isEmpty then moved else moved.see (.sent number written.sent)
      let answered := if written.echo.isEmpty then sent
        else (sent.see (.arrived number written.echo)).wake (.reader number)
      have sentSame : sent.source = simulation.source := by
        unfold sent
        split <;> rfl
      have same : answered.source = simulation.source := by
        unfold answered
        split
        · exact sentSame
        · exact (source_wake _ _).trans sentSame
      change (written.report.elim answered fun report =>
        answered.report socket.generation report).source = _
      cases written.report with
      | none => exact same
      | some report => exact (source_report _ _ _).trans same

end Source

/-- In between, some ids were taken by callers and the next ones for pings, in any order, and
some requests were made, of which none is multiplied on its way to the engine. -/
structure Draws (before : Simulation) (taken : List UInt32) (requests : List (UInt32 × Nat))
    (after : Simulation) : Prop where
  drawn : ∃ count pinged, after.pingIds = before.pingIds ++ pinged ∧
    (taken ++ pinged).Perm (before.source.issue count) ∧ after.source = before.source.drawn count
  wished : after.wishes.Sublist (before.wishes ++ requests)

namespace Draws

variable {before middle after simulation : Simulation} {taken more : List UInt32}
  {requests further : List (UInt32 × Nat)}

theorem trans (first : before.Draws taken requests middle)
    (second : middle.Draws more further after) :
    before.Draws (taken ++ more) (requests ++ further) after := by
  obtain ⟨count, pinged, pings, drawn, source⟩ := first.drawn
  obtain ⟨many, alsoPinged, morePings, alsoDrawn, last⟩ := second.drawn
  refine ⟨⟨count + many, pinged ++ alsoPinged, ?_, ?_, ?_⟩, ?_⟩
  · rw [morePings, pings, List.append_assoc]
  · rw [SyncSource.issue_add, ← source]
    refine List.Perm.trans ?_ (drawn.append alsoDrawn)
    rw [List.append_assoc, List.append_assoc]
    refine .append_left taken ?_
    rw [← List.append_assoc, ← List.append_assoc]
    exact .append_right alsoPinged List.perm_append_comm
  · rw [last, source, SyncSource.drawn_drawn]
  · rw [← List.append_assoc]
    exact second.wished.trans (first.wished.append_right further)

/-- What takes no id and tells the engine nothing draws none. -/
theorem of_same (source : after.source = before.source) (spoken : after.spoken = before.spoken)
    (wished : (after.connection.mailbox.filterMap Command.request?).Sublist
      (before.connection.mailbox.filterMap Command.request? ++ requests)) :
    before.Draws [] requests after where
  drawn := by
    refine ⟨0, [], ?_, .refl _, source.trans before.source.drawn_zero.symm⟩
    rw [List.append_nil, pingIds, pings, spoken]
    rfl
  wished := by
    rw [wishes, wishes, spoken, List.append_assoc]
    exact wished.append_left _

theorem of_voice (source : after.source = before.source) (voice : after.voice = before.voice) :
    before.Draws [] [] after := by
  refine of_same source (congrArg (·.2.2) voice) ?_
  rw [connection_of_voice voice, List.append_nil]

theorem refl (simulation : Simulation) : simulation.Draws [] [] simulation := of_voice rfl rfl

/-- A caller takes an id. -/
theorem take (simulation : Simulation) :
    simulation.Draws [simulation.allocate.1] [] simulation.allocate.2 where
  drawn := ⟨1, [], (List.append_nil _).symm, .of_eq simulation.source.issue_one.symm, rfl⟩
  wished := by
    rw [List.append_nil]
    exact .refl _

/-- What the engine is told goes on the record. -/
theorem filterMap_hearing {Item : Type} (select : Sight → Option Item)
    (silent : ∀ time effect, select (.engine time effect) = none) (simulation : Simulation)
    (stimulus : Stimulus) (reaction : Connection × List Effect) :
    ((simulation.hear stimulus).accept reaction).spoken.filterMap select =
      simulation.spoken.filterMap select ++ (select (.heard simulation.now stimulus)).toList := by
  have said : (reaction.2.map (Sight.engine simulation.now)).filterMap select = [] := by
    simp [List.filterMap_map, silent]
  rw [spoken_accept_hear, List.filterMap_append, List.filterMap_cons, said]
  cases select (.heard simulation.now stimulus) <;> rfl

theorem mailbox_takeOver (rest : List Command) (reaction : Client.Reaction)
    (connection : Connection) :
    (connection.takeOver rest reaction).1.mailbox.Sublist rest := by
  unfold Connection.takeOver
  split
  · exact .refl rest
  · exact List.nil_sublist rest
  · exact List.nil_sublist rest

/-- A request that the engine takes is one that was in the mailbox. -/
theorem serve {command : Command} {rest : List Command}
    (waiting : simulation.connection.mailbox = command :: rest) :
    simulation.Draws [] [] (simulation.serve command) := by
  let reaction := simulation.connection.serve simulation.now
  have left : reaction.1.mailbox.Sublist rest := by
    unfold reaction Connection.serve
    rw [waiting]
    exact mailbox_takeOver rest _ _
  have pings : (simulation.serve command).pings = simulation.pings ++ [] :=
    filterMap_hearing Sight.pinged? (fun _ _ => rfl) simulation (.command command) reaction
  have requests : requestsIn (simulation.serve command).spoken =
      requestsIn simulation.spoken ++ command.request?.toList :=
    filterMap_hearing Sight.request? (fun _ _ => rfl) simulation (.command command) reaction
  refine ⟨⟨0, [], ?_, .refl _, ?_⟩, ?_⟩
  · exact (congrArg (List.map Prod.snd) pings).trans List.map_append
  · exact (source_accept _ _).trans simulation.source.drawn_zero.symm
  · have mailbox : (simulation.serve command).connection.mailbox = reaction.1.mailbox :=
      congrArg Connection.mailbox (connection_accept _ _)
    rw [wishes, wishes, waiting, List.append_nil, mailbox, requests, List.append_assoc,
      List.filterMap_cons]
    refine .append_left ?_ _
    cases command.request? with
    | none => exact left.filterMap _
    | some request => exact (left.filterMap _).cons_cons _

/-- What the engine is told otherwise is no request. -/
theorem stimulate {stimulus : Stimulus} (unasked : ∀ command, stimulus ≠ .command command)
    {pinged : List UInt32}
    (pings : ((Sight.heard simulation.now stimulus).pinged?.map Prod.snd).toList = pinged) :
    (simulation.stimulate stimulus).source = simulation.source ∧
      (simulation.stimulate stimulus).pingIds = simulation.pingIds ++ pinged ∧
      (simulation.stimulate stimulus).wishes.Sublist simulation.wishes := by
  let reaction := simulation.connection.react simulation.now stimulus
  have left : reaction.1.mailbox.Sublist simulation.connection.mailbox := by
    unfold reaction Connection.react
    split
    · exact mailbox_takeOver _ _ _
    · exact .refl _
  have pinging : (simulation.stimulate stimulus).pings = _ :=
    filterMap_hearing Sight.pinged? (fun _ _ => rfl) simulation stimulus reaction
  have requests : requestsIn (simulation.stimulate stimulus).spoken = _ :=
    filterMap_hearing Sight.request? (fun _ _ => rfl) simulation stimulus reaction
  refine ⟨source_accept _ _, ?_, ?_⟩
  · refine (congrArg (List.map Prod.snd) pinging).trans ?_
    rw [List.map_append, ← pings]
    cases (Sight.heard simulation.now stimulus).pinged? <;> rfl
  · have silent : (Sight.heard simulation.now stimulus).request? = none := by
      cases stimulus with
      | command command => exact absurd rfl (unasked command)
      | _ => rfl
    have mailbox : (simulation.stimulate stimulus).connection.mailbox = reaction.1.mailbox :=
      congrArg Connection.mailbox (connection_accept _ _)
    rw [wishes, wishes, mailbox, requests, silent, Option.toList_none, List.append_nil]
    exact (left.filterMap _).append_left _

theorem tell {stimulus : Stimulus} (unasked : ∀ command, stimulus ≠ .command command)
    (unpinged : ∀ sync, stimulus ≠ .ping sync) :
    simulation.Draws [] [] (simulation.stimulate stimulus) := by
  have silent : ((Sight.heard simulation.now stimulus).pinged?.map Prod.snd).toList = [] := by
    cases stimulus with
    | ping sync => exact absurd rfl (unpinged sync)
    | _ => rfl
  obtain ⟨source, pings, wished⟩ := stimulate unasked silent
  refine ⟨⟨0, [], pings, .refl _, source.trans simulation.source.drawn_zero.symm⟩, ?_⟩
  rw [List.append_nil]
  exact wished

/-- The next id is for the ping. -/
theorem firePing (simulation : Simulation) : simulation.Draws [] [] simulation.firePing := by
  let allocated := simulation.allocate.2
  obtain ⟨source, pings, wished⟩ := @stimulate allocated (.ping simulation.allocate.1) nofun _ rfl
  refine ⟨⟨1, [simulation.allocate.1], pings, .of_eq simulation.source.issue_one.symm, source⟩, ?_⟩
  rw [List.append_nil]
  exact wished

theorem takeReports (simulation : Simulation) :
    simulation.Draws [] [] simulation.takeReports := by
  have each (reports : List (Nat × Report)) (simulation : Simulation) :
      simulation.Draws [] [] (reports.foldl
        (fun simulation entry => simulation.stimulate (.report entry.1 entry.2)) simulation) := by
    induction reports generalizing simulation with
    | nil => exact .refl simulation
    | cons entry rest ih =>
        have one : simulation.Draws [] [] (simulation.stimulate (.report entry.1 entry.2)) :=
          .tell nofun nofun
        exact one.trans (ih _)
  have emptied : simulation.Draws [] [] { simulation with reports := [] } := .of_voice rfl rfl
  exact emptied.trans (each simulation.reports _)

theorem runTask (simulation : Simulation) (task : Task) :
    simulation.Draws [] [] (simulation.runTask task) := by
  cases task with
  | engine => exact .takeReports simulation
  | dial => exact .of_voice (source_dial simulation) (voice_dial simulation)
  | reader number =>
      exact .of_voice (source_runReader simulation number) (voice_runReader simulation number)
  | writer number =>
      exact .of_voice (source_runWriter simulation number) (voice_runWriter simulation number)
  | awaiter ticket outcome => exact .of_voice rfl (voice_see _ rfl)

theorem fireTimer (simulation : Simulation) : simulation.Draws [] [] simulation.fireTimer := by
  unfold Simulation.fireTimer
  split
  · exact .tell nofun nofun
  · split
    · split
      · exact .of_voice (source_proceed _ _) (voice_proceed _ _)
      · exact .firePing simulation
    · exact .firePing simulation

theorem step? {horizon : Time} {next : Simulation}
    (stepped : simulation.step? horizon = some next) :
    simulation.Draws [] [] next := by
  unfold Simulation.step? at stepped
  split at stepped
  · next command rest waiting =>
      cases stepped
      exact .serve waiting
  · next task rest _ _ =>
      cases stepped
      have taken : simulation.Draws [] [] { simulation with tasks := rest } := .of_voice rfl rfl
      exact taken.trans (.runTask _ task)
  · split at stepped
    · cases stepped
    · next time _ =>
        split at stepped
        · cases stepped
          have waited : simulation.Draws [] [] { simulation with now := max simulation.now time } :=
            .of_same rfl rfl (List.sublist_append_left _ _)
          exact waited.trans (.fireTimer _)
        · cases stepped

theorem run (horizon : Time) (fuel : Nat) (simulation : Simulation) :
    simulation.Draws [] [] (simulation.run horizon fuel) := by
  induction fuel generalizing simulation with
  | zero => exact .refl simulation
  | succ fuel ih =>
      unfold Simulation.run
      split
      · exact .refl simulation
      · next next stepped => exact (step? stepped).trans (ih next)

theorem elapse (simulation : Simulation) (span : Time) :
    simulation.Draws [] [] (simulation.elapse span) := by
  have ran := run (simulation.now + span) stepLimit simulation
  unfold Simulation.elapse
  dsimp only
  split
  · exact ran.trans (.of_same rfl rfl (List.sublist_append_left _ _))
  · exact ran

/-- The handle puts commands into the mailbox, if anything. -/
theorem post (simulation : Simulation) {connection : Connection} {requests : List (UInt32 × Nat)}
    (posted : (connection.mailbox.filterMap Command.request?).Sublist
      (simulation.connection.mailbox.filterMap Command.request? ++ requests)) :
    simulation.Draws [] requests (simulation.withConnection connection) :=
  .of_same rfl rfl posted

theorem mailbox_post (connection : Connection) {command : Command}
    (plain : command.request? = none) :
    ((connection.post command).mailbox.filterMap Command.request?).Sublist
      (connection.mailbox.filterMap Command.request? ++ []) := by
  rw [List.append_nil]
  unfold Connection.post
  split
  · rw [List.filterMap_append, List.filterMap_cons, plain]
    change (_ ++ []).Sublist _
    rw [List.append_nil]
  · exact .refl _

theorem mailbox_submit (connection : Connection) (packet : Wire.Packet) (ticket : Option Nat) :
    ((connection.submit packet ticket).2.mailbox.filterMap Command.request?).Sublist
      (connection.mailbox.filterMap Command.request? ++
        (Command.write packet ticket).request?.toList) := by
  rcases connection.submit_cases packet ticket with rejected | ⟨-, taken⟩
  · rw [rejected]
    exact List.sublist_append_left _ _
  · rw [taken]
    dsimp only
    rw [List.filterMap_append, List.filterMap_cons]
    cases (Command.write packet ticket).request? <;> exact .refl _

theorem throughHandle (simulation : Simulation) {act : Simulation → Answer × Simulation}
    {requests : List (UInt32 × Nat)} (acts : simulation.Draws [] requests (act simulation).2) :
    simulation.Draws [] requests (simulation.throughHandle act).2 := by
  unfold Simulation.throughHandle
  split
  · exact acts
  · exact .of_same rfl rfl (List.sublist_append_left _ _)

theorem request (simulation : Simulation) (ticket : Nat) (packet : Wire.Packet) :
    simulation.Draws [] [(packet.header.sync, ticket)] (simulation.request ticket packet) := by
  unfold Simulation.request
  dsimp only
  split
  · exact .of_same rfl rfl (mailbox_submit _ packet (some ticket))
  · exact .of_same rfl (congrArg (·.2.2) (voice_see simulation rfl)) (List.sublist_append_left _ _)

theorem byPeer (simulation : Simulation) (socket : Option Nat) {sight : Nat → Sight}
    (silent : ∀ number, (sight number).isSpoken = false) (change : Socket → Socket) :
    simulation.Draws [] [] (simulation.byPeer socket sight change).2 := by
  unfold Simulation.byPeer
  split
  · exact .refl simulation
  · next found _ =>
      split
      · refine .of_voice (source_wake _ _) ?_
        exact (voice_wake _ _).trans (voice_see _ (silent found.number))
      · exact .refl simulation

theorem shutdown (simulation : Simulation) :
    simulation.Draws [] [] (simulation.withConnection simulation.connection.shutdown) :=
  .post simulation (mailbox_post _ rfl)

/-- An operation takes no id, but for pings, and makes the request that it is for. -/
theorem act (simulation : Simulation) (operation : Operation) :
    simulation.Draws [] operation.request?.toList (simulation.act operation).2 := by
  cases operation with
  | write ticket packet => exact throughHandle _ (.post _ (mailbox_submit _ packet (some ticket)))
  | send packet => exact throughHandle _ (.post _ (mailbox_submit _ packet none))
  | request ticket packet => exact throughHandle _ (.request _ ticket packet)
  | shutdown => exact throughHandle _ (.shutdown _)
  | gentleShutdown =>
      refine throughHandle _ ?_
      change simulation.Draws [] []
        (simulation.withConnection simulation.connection.gentleShutdown.2)
      unfold Connection.gentleShutdown
      split
      · exact .refl simulation
      · split
        · exact .refl simulation
        · exact .shutdown simulation
  | reconnect => exact throughHandle _ (.post _ (mailbox_post _ rfl))
  | disablePing => exact throughHandle _ (.post _ (mailbox_post _ rfl))
  | drop =>
      have shut := shutdown simulation
      exact throughHandle _ (shut.trans (.of_voice rfl rfl))
  | describe => exact throughHandle _ (.refl simulation)
  | elapse span => exact .elapse simulation span
  | peerSend socket pieces => exact .byPeer simulation socket (fun _ => rfl) _
  | peerClose socket => exact .byPeer simulation socket (fun _ => rfl) _
  | unblock socket =>
      change simulation.Draws [] [] (simulation.release socket).2
      unfold Simulation.release
      split
      · exact .refl simulation
      · split
        · exact .of_voice (source_wake _ _) (voice_wake _ _)
        · exact .refl simulation
  | prepare socket script =>
      change simulation.Draws [] [] (simulation.prepare socket script).2
      unfold Simulation.prepare
      split
      · exact .refl simulation
      · exact .of_voice rfl rfl
  | plan plans => exact .of_voice rfl rfl
  | nothing => exact .refl simulation

theorem undertake (simulation : Simulation) (errand : Errand) :
    simulation.Draws (simulation.taken [errand]) errand.request?.toList
      (simulation.undertake errand) := by
  cases errand with
  | take => exact .take simulation
  | carry doing =>
      cases doing with
      | operate operation => exact .act simulation operation
      | step horizon =>
          change simulation.Draws [] [] ((simulation.step? horizon).getD simulation)
          cases stepped : simulation.step? horizon with
          | none => exact .refl simulation
          | some next => exact step? stepped

theorem along (simulation : Simulation) (errands : List Errand) :
    simulation.Draws (simulation.taken errands) (requestsOf errands)
      (simulation.along errands) := by
  induction errands generalizing simulation with
  | nil => exact .refl simulation
  | cons errand later ih =>
      have one := (undertake simulation errand).trans (ih (simulation.undertake errand))
      have requests : requestsOf (errand :: later) = errand.request?.toList ++ requestsOf later := by
        rw [requestsOf, List.filterMap_cons]
        cases errand.request? <;> rfl
      rw [requests]
      cases errand with
      | take => exact one
      | carry doing => exact one

end Draws

theorem IsSteady.undertake {simulation : Simulation}
    (steady : simulation.IsSteady simulation.reports) (sound : simulation.IsSound)
    (errand : Errand) : simulation.Advances (simulation.undertake errand) := by
  cases errand with
  | take => exact steady.advances_of_voice (.of_same steady.sound rfl rfl) rfl
  | carry doing => exact steady.next sound doing

theorem IsSteady.along {simulation : Simulation}
    (steady : simulation.IsSteady simulation.reports) (sound : simulation.IsSound)
    (errands : List Errand) : simulation.Advances (simulation.along errands) := by
  induction errands generalizing simulation with
  | nil => exact .refl steady
  | cons errand later ih =>
      have one := steady.undertake sound errand
      exact one.trans (ih (steady.advance one) (one.toFollows.isSound sound))

end Simulation

/-- The id under which a response is asked for. -/
def Sight.asked? : Sight → Option UInt32
  | .heard _ stimulus => stimulus.sync?
  | _ => none

/-- A response is asked for by a request or by a ping. -/
theorem asked_perm (record : List Sight) :
    (record.filterMap Sight.asked?).Perm
      ((requestsIn record).map Prod.fst ++ (record.filterMap Sight.pinged?).map Prod.snd) := by
  induction record with
  | nil => exact .refl _
  | cons sight rest ih =>
      have same (asked : sight.asked? = none) (requested : sight.request? = none)
          (pinged : sight.pinged? = none) :
          ((sight :: rest).filterMap Sight.asked?).Perm ((requestsIn (sight :: rest)).map Prod.fst ++
            ((sight :: rest).filterMap Sight.pinged?).map Prod.snd) := by
        rw [requestsIn, List.filterMap_cons, asked, List.filterMap_cons, requested,
          List.filterMap_cons, pinged]
        exact ih
      cases sight with
      | heard time stimulus =>
          cases stimulus with
          | command command =>
              cases requested : command.request? with
              | none =>
                  exact same (congrArg (Option.map Prod.fst) requested) requested rfl
              | some request =>
                  have asked : (Sight.heard time (.command command)).asked? = some request.1 :=
                    congrArg (Option.map Prod.fst) requested
                  have wished : (Sight.heard time (.command command)).request? = some request :=
                    requested
                  rw [requestsIn, List.filterMap_cons, asked, List.filterMap_cons, wished]
                  exact ih.cons request.1
          | ping sync => exact (ih.cons sync).trans List.perm_middle.symm
          | report generation report => exact same rfl rfl rfl
          | alarm => exact same rfl rfl rfl
      | _ => exact same rfl rfl rfl

/-- What the engine was asked for is seen. -/
theorem askedIn_sublist (turns : List Turn) :
    (askedIn turns).Sublist ((turns.flatMap sightsIn).filterMap Sight.asked?) := by
  induction turns with
  | nil => exact .refl _
  | cons turn later ih =>
      have silent : (turn.effects.map (Sight.engine turn.time)).filterMap Sight.asked? = [] := by
        simp [List.filterMap_map, Sight.asked?]
      have seen : (sightsIn turn).filterMap Sight.asked? =
          (turn.stimulus?.bind Client.Stimulus.sync?).toList := by
        rw [sightsIn, List.filterMap_append, silent, List.append_nil]
        cases turn.stimulus? with
        | none => rfl
        | some stimulus =>
            have asked : (Sight.heard turn.time stimulus).asked? = stimulus.sync? := rfl
            change [Sight.heard turn.time stimulus].filterMap Sight.asked? = _
            rw [List.filterMap_cons, asked, Option.bind_some]
            cases stimulus.sync? <;> rfl
      have first : askedIn (turn :: later) =
          (turn.heard?.bind Client.Stimulus.sync?).toList ++ askedIn later := by
        rw [askedIn, List.filterMap_cons]
        cases turn.heard?.bind Client.Stimulus.sync? <;> rfl
      rw [first, List.flatMap_cons, List.filterMap_append, seen]
      refine .append ?_ ih
      cases heard : turn.heard? with
      | none => exact List.nil_sublist _
      | some stimulus =>
          rw [Turn.stimulus?_of_heard? heard]

/-- What beats keep holds after any number of them. -/
theorem Beats.holds {motive : Scene → Prop}
    (kept : ∀ {scene next}, Beat scene next → motive scene → motive next) {scene after : Scene}
    (beats : Beats scene after) (began : motive scene) : motive after := by
  induction beats with
  | refl => exact began
  | tail _ beat ih => exact kept beat ih

/-- Whoever is told of a response made a request with its id. -/
theorem IsAccounted.mem_requestsIn {limit : UInt32} {record : List Sight}
    (accounted : IsAccounted limit record) {earlier : List Sight} {time : Time} {ticket : Nat}
    {packet : Wire.Packet}
    (told : earlier ++ [.engine time (.resolved ticket (.ok packet))] <+: record) :
    (packet.header.sync, ticket) ∈ requestsIn earlier := by
  obtain ⟨middle, entry, waiter, rfl⟩ := accounted.resolved earlier time ticket packet told
  obtain ⟨before, generation, number, rfl, answers⟩ :=
    accounted.answered middle time entry packet ((List.prefix_append _ _).trans told)
  obtain ⟨past, moment, asked, made, rest, rfl, same, -⟩ := answers.requested ticket waiter
  refine List.mem_filterMap.mpr ⟨.heard moment (.command (.write asked (some ticket))), ?_, ?_⟩
  · simp
  · rw [answers.sync, ← same]
    rfl

/-- Callers take ids for their packets, and pings take theirs, from one source that may begin
anywhere and starts again at zero behind the largest id.  As long as each request carries an id that
was taken for it, and fewer ids are taken than there are: no two of all the ids that are taken are
the same; no request and no ping takes the place of another in the table, and the engine never warns
that it does; and whoever is told of a response made the one request with its id. -/
theorem Simulation.ids_never_collide (endpoint : Endpoint) (settings : Settings)
    (source : SyncSource) (plans : List Plan) (fallback : Plan) (errands : List Errand)
    (own : ((requestsOf errands).map Prod.fst).Subperm
      ((start endpoint settings source plans fallback).taken errands))
    (few : ((start endpoint settings source plans fallback).taken errands).length +
      ((start endpoint settings source plans fallback).along errands).pings.length < 2 ^ 32) :
    let taken := (start endpoint settings source plans fallback).taken errands
    let simulation := (start endpoint settings source plans fallback).along errands
    let requests := requestsIn simulation.record
    (taken ++ simulation.pingIds).Nodup ∧
      ((requests.map Prod.fst).Subperm taken ∧
        (requests.map Prod.fst ++ simulation.pingIds).Nodup) ∧
      (∃ moves, (Connection.start endpoint settings).run moves = simulation.connection ∧
        simulation.record.filter Sight.isSpoken =
          ((Connection.start endpoint settings).turns moves).flatMap sightsIn ∧
        ∀ turn ∈ (Connection.start endpoint settings).turns moves, turn.IsUnmixed) ∧
      (∀ time sync, .engine time (.warned (.syncReused sync)) ∉ simulation.record) ∧
      ∀ earlier time ticket packet,
        earlier ++ [.engine time (.resolved ticket (.ok packet))] <+: simulation.record →
          (packet.header.sync, ticket) ∈ requestsIn earlier := by
  intro taken simulation requests
  let beginning := start endpoint settings source plans fallback
  have advances : beginning.Advances simulation :=
    (IsSteady.start endpoint settings source plans fallback).along
      (isSound_start endpoint settings source plans fallback) errands
  obtain ⟨moves, enacts⟩ := advances.enacts
  have spoken : simulation.record.filter Sight.isSpoken =
      ((Connection.start endpoint settings).turns moves).flatMap sightsIn := enacts.spoken
  have draws : beginning.Draws taken (requestsOf errands) simulation := .along beginning errands
  -- all ids are the first ones of the source, in some order
  have distinct : (taken ++ simulation.pingIds).Nodup := by
    obtain ⟨count, pinged, pings, drawn, -⟩ := draws.drawn
    have all : simulation.pingIds = pinged := pings
    rw [all, drawn.nodup_iff]
    refine beginning.source.nodup_issue (Nat.le_of_lt ?_)
    have length := drawn.length_eq
    rw [SyncSource.length_issue, ← all, List.length_append, pingIds, List.length_map] at length
    exact length ▸ few
  have listed : requests = requestsIn simulation.spoken := by
    refine (filterMap_spoken simulation.record fun sight silent => ?_).symm
    cases sight with
    | heard _ _ => cases silent
    | _ => rfl
  have wished : requests.Sublist (requestsOf errands) := by
    rw [listed]
    exact (List.sublist_append_left _ _).trans draws.wished
  have mine : (requests.map Prod.fst).Subperm taken := (wished.map Prod.fst).subperm.trans own
  have apart : (requests.map Prod.fst ++ simulation.pingIds).Nodup := by
    obtain ⟨some, same, fewer⟩ := mine
    exact (same.append_right _).nodup_iff.mp ((fewer.append_right _).nodup distinct)
  have unmixed : ∀ turn ∈ (Connection.start endpoint settings).turns moves, turn.IsUnmixed := by
    refine Connection.ids_stay_apart endpoint settings moves ?_
    refine (askedIn_sublist _).nodup ?_
    rw [← spoken, (asked_perm _).nodup_iff]
    exact listed ▸ apart
  have correlated : simulation.scene.IsCorrelated settings :=
    Beats.holds (fun beat correlated => correlated.beat beat) advances.beats
      (.start endpoint settings source plans fallback)
  refine ⟨distinct, ⟨mine, apart⟩, ⟨moves, enacts.connection.symm, spoken, unmixed⟩,
    fun time sync warned => ?_, fun earlier time ticket packet told => ?_⟩
  · have said : .engine time (.warned (.syncReused sync)) ∈
        simulation.record.filter Sight.isSpoken := List.mem_filter.mpr ⟨warned, rfl⟩
    rw [spoken] at said
    obtain ⟨turn, there, seen⟩ := List.mem_flatMap.mp said
    refine (unmixed turn there).quiet sync ?_
    rcases List.mem_append.mp seen with heard | done
    · obtain ⟨stimulus, -, different⟩ := List.mem_map.mp heard
      cases different
    · obtain ⟨effect, here, same⟩ := List.mem_map.mp done
      cases same
      exact here
  · exact correlated.accounted.mem_requestsIn told

/-- Two requests and a ping, with ids that start again at zero in between: the peer sends back what
it is sent, and both callers have their responses. -/
theorem Simulation.ids_never_collide_around_zero :
    let errands : List Errand := [.take, .take,
      .carry (.operate (.write 0 (Field.pack 1 0xFFFFFFFF 0 []))),
      .carry (.operate (.write 1 (Field.pack 1 0 0 []))), .carry (.operate (.elapse 6000))]
    let beginning := start ⟨.dotted [127, 0, 0, 1], 3301⟩ .standard ⟨0xFFFFFFFF⟩ []
      ⟨.accept, 0, true, none, ⟨[], []⟩⟩
    let simulation := beginning.along errands
    beginning.taken errands = [0xFFFFFFFF, 0] ∧ simulation.pingIds = [1] ∧
      simulation.record.filterMap Sight.telling? =
        [⟨0, .ok (Field.pack 1 0xFFFFFFFF 0 []), 0⟩, ⟨1, .ok (Field.pack 1 0 0 []), 0⟩] ∧
      (beginning.taken errands ++ simulation.pingIds).Nodup ∧
      ∀ time sync, .engine time (.warned (.syncReused sync)) ∉ simulation.record := by
  intro errands beginning simulation
  have apart := ids_never_collide ⟨.dotted [127, 0, 0, 1], 3301⟩ .standard ⟨0xFFFFFFFF⟩ []
    ⟨.accept, 0, true, none, ⟨[], []⟩⟩ errands
    (List.Perm.subperm (by decide +kernel)) (by decide +kernel)
  exact ⟨by decide +kernel, by decide +kernel, by decide +kernel, apart.1, apart.2.2.2.1⟩

end Network

end RequestMux
