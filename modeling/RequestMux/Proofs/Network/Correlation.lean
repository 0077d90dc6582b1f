import RequestMux.Proofs.Client.Accounts
import RequestMux.Proofs.Network.Due
import RequestMux.Proofs.Network.Schedule

/-!
# How responses belong to requests

A response is heard as a frame of the socket that is served.  It answers a request that was
made before, and whoever is told about it is told at once.
-/

namespace RequestMux.Network

open Client (Duty Effect Engine Onset Report Stimulus Tick Time answersOn attachedIn
  attachedIn_append dutyAfter dutyAfter_append prefix_of_not_mem)
open Client.Pending (Entry)
open Wire (Packet framesIn framesIn_whole)

/-- Whether a caller made the request that an entry stands for. -/
def IsRequested (record : List Sight) (ticket : Nat) (entry : Entry) : Prop :=
  ∃ past time asked made rest,
    record = past ++ .heard time (.command (.write asked (some ticket))) ::
      .engine time (.registered made) :: rest ∧
    asked.header.sync = entry.sync ∧ made.claim = entry.claim

theorem IsRequested.append {record : List Sight} {ticket : Nat} {entry : Entry}
    (requested : IsRequested record ticket entry) (more : List Sight) :
    IsRequested (record ++ more) ticket entry := by
  obtain ⟨past, time, asked, made, rest, rfl, same, alike⟩ := requested
  refine ⟨past, time, asked, made, rest ++ more, ?_, same, alike⟩
  rw [List.append_assoc]
  rfl

/-- How a frame, heard after some record, answers an entry: it carries the id of the entry; it
is a frame that the socket now served has received, behind all that answered on this socket
before; and the entry stands for a request made earlier. -/
structure Answers (limit : UInt32) (before : List Sight) (number : Nat) (entry : Entry)
    (packet : Packet) : Prop where
  sync : packet.header.sync = entry.sync
  served : (dutyAfter (effectsIn before)).socket = some number
  received : (answersOn number (effectsIn before) ++ [packet]).Sublist
    (framesIn limit (receivedOn number before))
  requested : ∀ ticket, entry.waiter = .caller ticket → IsRequested before ticket entry

/-- Where the answers in a record come from. -/
structure IsAccounted (limit : UInt32) (record : List Sight) : Prop where
  /-- An entry is answered by a frame that has just been heard. -/
  answered : ∀ earlier time entry packet,
    earlier ++ [.engine time (.answered entry packet)] <+: record →
      ∃ before generation number,
        earlier = before ++ [.heard time (.report generation (.frame packet))] ∧
        Answers limit before number entry packet
  /-- A caller is told about the frame that has just answered its entry. -/
  resolved : ∀ earlier time ticket packet,
    earlier ++ [.engine time (.resolved ticket (.ok packet))] <+: record →
      ∃ before entry, entry.waiter = .caller ticket ∧
        earlier = before ++ [.engine time (.answered entry packet)]

namespace IsAccounted

variable {limit : UInt32} {record sights : List Sight}

theorem extend (accounted : IsAccounted limit record)
    (silent : ∀ time effect, .engine time effect ∈ sights → effect.isAnswer = false) :
    IsAccounted limit (record ++ sights) := by
  constructor
  · intro earlier time entry packet prior
    have absent : .engine time (.answered entry packet) ∉ sights := fun member =>
      nomatch silent _ _ member
    exact accounted.answered earlier time entry packet (prefix_of_not_mem prior absent)
  · intro earlier time ticket packet prior
    have absent : .engine time (.resolved ticket (.ok packet)) ∉ sights := fun member =>
      nomatch silent _ _ member
    exact accounted.resolved earlier time ticket packet (prefix_of_not_mem prior absent)

theorem of_silent (accounted : IsAccounted limit record) (silent : effectsIn sights = []) :
    IsAccounted limit (record ++ sights) := by
  refine accounted.extend fun time effect member => ?_
  have done : effect ∈ effectsIn sights := List.mem_filterMap.mpr ⟨_, member, rfl⟩
  rw [silent] at done
  cases done

/-- A frame is heard, answers an entry, and whoever waits is told. -/
theorem answer (accounted : IsAccounted limit record) {time : Time} {generation number : Nat}
    {entry : Entry} {packet : Packet} (answers : Answers limit record number entry packet) :
    IsAccounted limit (record ++ .heard time (.report generation (.frame packet)) ::
      .engine time (.answered entry packet) ::
        entry.waiter.ticket?.toList.map fun ticket => .engine time (.resolved ticket (.ok packet))) := by
  let heard := record ++ [.heard time (.report generation (.frame packet))]
  let answered : List Sight := heard ++ [.engine time (.answered entry packet)]
  have hears : IsAccounted limit heard := accounted.of_silent rfl
  have marked : IsAccounted limit answered := by
    constructor
    · intro earlier moment other frame prior
      rcases List.prefix_concat_iff.mp prior with whole | early
      · obtain ⟨rfl, same⟩ := List.append_inj' whole rfl
        cases same
        exact ⟨record, generation, number, rfl, answers⟩
      · exact hears.answered earlier moment other frame early
    · intro earlier moment ticket frame prior
      have absent : .engine moment (.resolved ticket (.ok frame)) ∉
          [Sight.engine time (.answered entry packet)] := by simp
      exact hears.resolved earlier moment ticket frame (prefix_of_not_mem prior absent)
  have split : record ++ .heard time (.report generation (.frame packet)) ::
      .engine time (.answered entry packet) ::
        (entry.waiter.ticket?.toList.map fun ticket => .engine time (.resolved ticket (.ok packet))) =
      answered ++ entry.waiter.ticket?.toList.map
        fun ticket => .engine time (.resolved ticket (.ok packet)) := by
    simp [answered, heard]
  rw [split]
  cases waiter : entry.waiter with
  | ping =>
      change IsAccounted limit (answered ++ [])
      rw [List.append_nil]
      exact marked
  | caller ticket =>
      constructor
      · intro earlier moment other frame prior
        have absent : .engine moment (.answered other frame) ∉
            [Sight.engine time (.resolved ticket (.ok packet))] := by simp
        exact marked.answered earlier moment other frame (prefix_of_not_mem prior absent)
      · intro earlier moment other frame prior
        rcases List.prefix_concat_iff.mp prior with whole | early
        · obtain ⟨rfl, same⟩ := List.append_inj' whole rfl
          cases same
          exact ⟨heard, entry, waiter, rfl⟩
        · exact marked.resolved earlier moment other frame early

end IsAccounted

/-- How what the engine has done, what waits in its table and what is under way to it agree with
the record. -/
structure Scene.IsCorrelated (settings : Settings) (scene : Scene) : Prop where
  wired : scene.IsWired
  lifecycle : Client.Lifecycle settings (effectsIn scene.record) scene.engine
  duty : (dutyAfter (effectsIn scene.record)).socket = scene.engine.link
  requested : ∀ entry ∈ scene.engine.pending.entries, ∀ ticket, entry.waiter = .caller ticket →
    IsRequested scene.record ticket entry
  accounted : IsAccounted settings.maxPayload scene.record
  reception : Reception settings.maxPayload
    (fun number => answersOn number (effectsIn scene.record) ++ scene.due number) scene.streams
    scene.record

namespace Scene.IsCorrelated

variable {settings : Settings} {scene after : Scene} {now : Time}

/-- The answers so far, with the socket that is served. -/
theorem duty_eq (correlated : scene.IsCorrelated settings) :
    dutyAfter (effectsIn scene.record) =
      ⟨scene.engine.link, (dutyAfter (effectsIn scene.record)).answers⟩ := by
  rw [← correlated.duty]

section Hear

variable {stimulus : Stimulus} {first : List Effect} {middle : Engine}
  {rest : List (Nat × Report)} {number : Nat} {packet : Packet}

/-- Without a response, what is heard changes no more than which socket is served. -/
theorem duty_silent (correlated : scene.IsCorrelated settings) (awake : scene.engine.IsAwake)
    (takes : Takes stimulus scene.inbox rest)
    (onset : Onset now scene.engine stimulus first middle)
    (silent : ∀ effect ∈ first, effect.isAnswer = false) :
    dutyAfter (effectsIn scene.record ++ first) =
      ⟨middle.link, (dutyAfter (effectsIn scene.record)).answers⟩ := by
  rw [dutyAfter_append, correlated.duty_eq]
  exact onset.duty silent (correlated.wired.apart awake.running takes) _

/-- A response comes behind the others on the socket that is served. -/
theorem duty_answer (correlated : scene.IsCorrelated settings)
    (linked : scene.engine.link = some number) (entry : Entry) (packet : Packet)
    (table : Client.Pending.Table) :
    dutyAfter (effectsIn scene.record ++
        .answered entry packet :: (scene.engine.discharge entry table (.ok packet)).2) =
      ⟨some number, (dutyAfter (effectsIn scene.record)).answers ++ [(number, packet)]⟩ := by
  let answers := (dutyAfter (effectsIn scene.record)).answers ++ [(number, packet)]
  have told : Duty.followAll (scene.engine.discharge entry table (.ok packet)).2
      ⟨some number, answers⟩ = ⟨some number, answers⟩ :=
    Duty.followAll_of_leaves (Engine.forall_tell _ _ _ _ fun _ => trivial)
  rw [dutyAfter_append, correlated.duty_eq, linked]
  exact told

theorem answersOn_answer (correlated : scene.IsCorrelated settings) {place : Nat}
    (linked : scene.engine.link = some place) (entry : Entry) (packet : Packet)
    (table : Client.Pending.Table) :
    answersOn number (effectsIn scene.record ++
        .answered entry packet :: (scene.engine.discharge entry table (.ok packet)).2) =
      answersOn number (effectsIn scene.record) ++ if place = number then [packet] else [] := by
  unfold answersOn
  rw [correlated.duty_answer linked, Duty.answersOn_append]
  refine congrArg (Duty.answersOn number _ ++ ·) ?_
  by_cases here : place = number
  · simp [Duty.answersOn, here]
  · simp [Duty.answersOn, here]

/-- A frame that is heard from the socket that is served has been received on it, behind those
that answered before and in front of those that are still to be heard. -/
theorem received (correlated : scene.IsCorrelated settings) (running : scene.engine.life = .running)
    (linked : scene.engine.link = some number)
    (first : scene.inbox = (scene.engine.generation, .frame packet) :: rest) :
    (answersOn number (effectsIn scene.record) ++
        packet :: framesFor scene.engine.generation rest).Sublist
      (framesIn settings.maxPayload (receivedOn number scene.record)) := by
  obtain ⟨socket, there, -⟩ := (correlated.wired.live running).linked number linked
  have given := (correlated.reception.gives number _ (streams_of_socket there)).sublist
  rw [due_of_frame running linked first] at given
  exact given

end Hear

theorem duty_pulse (correlated : scene.IsCorrelated settings) (pulse : Pulse scene after) :
    (dutyAfter (effectsIn after.record)).socket = after.engine.link := by
  cases pulse with
  | rest board sights engine record silent =>
      rw [record, effectsIn_append, silent, List.append_nil, engine]
      exact correlated.duty
  | hear awake takes onset =>
      rw [effectsIn_hear]
      rcases onset.isAnswer_cases with silent | ⟨packet, entry, table, rfl, found, rfl, rfl⟩
      · rw [correlated.duty_silent awake takes onset silent]
        rfl
      · obtain ⟨number, linked⟩ := (correlated.wired.live awake.running).linked_of_frame takes
        rw [correlated.duty_answer linked]
        exact linked.symm
  | tick awake tick =>
      rw [effectsIn_tick, dutyAfter_append, correlated.duty_eq, tick.duty]
      rfl
  | farewell said =>
      have leaves := fun effect member =>
        (Client.Life.silent_of_isFarewell (said effect member) scene.engine.link).2
      rw [effectsIn_performAll, performAll_engine, dutyAfter_append, correlated.duty_eq,
        Duty.followAll_of_leaves leaves]

theorem requested_pulse (correlated : scene.IsCorrelated settings) (pulse : Pulse scene after)
    (entry : Entry) (waiting : entry ∈ after.engine.pending.entries) (ticket : Nat)
    (waiter : entry.waiter = .caller ticket) : IsRequested after.record ticket entry := by
  cases pulse with
  | rest board sights engine record silent =>
      rw [engine] at waiting
      rw [record]
      exact (correlated.requested entry waiting ticket waiter).append sights
  | @hear now stimulus first middle rest awake takes onset =>
      have record : ((((scene.withInbox rest).note [.heard now stimulus]).performAll now
          first).withEngine middle).record =
            scene.record ++ .heard now stimulus :: first.flatMap (sightsOf now) :=
        (record_performAll now first _).trans (List.append_assoc _ _ _)
      rw [record]
      rcases onset.mem_pending waiting with ⟨old, there, alike⟩ | ⟨more, asked, rfl⟩
      · obtain ⟨sync, -, -, same⟩ : old.sync = entry.sync ∧ old.deadline = entry.deadline ∧
            old.job = entry.job ∧ old.waiter = entry.waiter := by
          simpa [Client.Pending.Entry.claim] using alike
        obtain ⟨past, time, packet, made, since, before, id, claim⟩ :=
          (correlated.requested old there ticket (same.trans waiter)).append _
        exact ⟨past, time, packet, made, since, before, id.trans sync, claim.trans alike⟩
      · rw [waiter] at asked
        obtain ⟨packet, rfl, sync⟩ := asked.of_caller
        exact ⟨scene.record, now, packet, entry, _, rfl, sync, rfl⟩
  | @tick now effects engine awake tick =>
      have requested := correlated.requested entry (tick.mem_pending waiting) ticket waiter
      change IsRequested (scene.performAll now effects).record ticket entry
      rw [record_performAll]
      exact requested.append _
  | farewell said =>
      rw [performAll_engine] at waiting
      rw [record_performAll]
      exact (correlated.requested entry waiting ticket waiter).append _

theorem accounted_pulse (correlated : scene.IsCorrelated settings) (pulse : Pulse scene after) :
    IsAccounted settings.maxPayload after.record := by
  have performs {record : List Sight} (accounted : IsAccounted settings.maxPayload record)
      {now : Time} {effects : List Effect} (silent : ∀ effect ∈ effects, effect.isAnswer = false) :
      IsAccounted settings.maxPayload (record ++ effects.flatMap (sightsOf now)) :=
    accounted.extend fun time effect member => silent effect (mem_sightsOf member)
  cases pulse with
  | rest board sights engine record silent =>
      rw [record]
      exact correlated.accounted.of_silent silent
  | @hear now stimulus first middle rest awake takes onset =>
      have record : ((((scene.withInbox rest).note [.heard now stimulus]).performAll now
          first).withEngine middle).record =
            (scene.record ++ [.heard now stimulus]) ++ first.flatMap (sightsOf now) :=
        record_performAll now first _
      rw [record]
      have heard : IsAccounted settings.maxPayload (scene.record ++ [.heard now stimulus]) :=
        correlated.accounted.of_silent rfl
      rcases onset.isAnswer_cases with silent | ⟨packet, entry, table, rfl, found, rfl, rfl⟩
      · exact performs heard silent
      · obtain ⟨number, linked⟩ := (correlated.wired.live awake.running).linked_of_frame takes
        obtain ⟨here, -⟩ := Client.Pending.Table.resolve_some found
        have named : (entry.sync == packet.header.sync) = true :=
          List.find?_some (p := fun other : Entry => other.sync == packet.header.sync) here
        have sync : packet.header.sync = entry.sync := (beq_iff_eq.mp named).symm
        have waiting : entry ∈ scene.engine.pending.entries := List.mem_of_find?_eq_some here
        have received := correlated.received awake.running linked takes
        have answers : Answers settings.maxPayload scene.record number entry packet := by
          refine ⟨sync, correlated.duty.trans linked, ?_, correlated.requested entry waiting⟩
          refine List.Sublist.trans ?_ received
          exact List.Sublist.append_left (List.singleton_sublist.mpr List.mem_cons_self) _
        have told : (scene.engine.discharge entry table (.ok packet)).2.flatMap (sightsOf now) =
            entry.waiter.ticket?.toList.map
              fun ticket => .engine now (.resolved ticket (.ok packet)) := by
          change (entry.waiter.ticket?.toList.map _).flatMap (sightsOf now) = _
          cases entry.waiter.ticket? <;> rfl
        rw [List.append_assoc, List.flatMap_cons, told]
        exact correlated.accounted.answer answers
  | @tick now effects engine awake tick =>
      change IsAccounted settings.maxPayload (scene.performAll now effects).record
      rw [record_performAll]
      exact performs correlated.accounted tick.isAnswer_eq_false
  | farewell said =>
      rw [record_performAll]
      refine performs correlated.accounted fun effect member => ?_
      exact (Client.Life.silent_of_isFarewell (said effect member) none).1

/-- Whatever the engine hears and does, the sockets receive the same. -/
theorem listen (correlated : scene.IsCorrelated settings) {sights : List Sight}
    (streams : after.streams = scene.streams) (record : after.record = scene.record ++ sights)
    (deaf : AreDeaf sights)
    (less : ∀ number, (answersOn number (effectsIn after.record) ++ after.due number).Sublist
      (answersOn number (effectsIn scene.record) ++ scene.due number)) :
    Reception settings.maxPayload
      (fun number => answersOn number (effectsIn after.record) ++ after.due number) after.streams
      after.record := by
  have heard := (correlated.reception.mono fun number _ _ => less number).note deaf
  rw [← record, ← streams] at heard
  exact heard

theorem reception_hear (correlated : scene.IsCorrelated settings) {stimulus : Stimulus}
    {first : List Effect} {rest : List (Nat × Report)} (awake : scene.engine.IsAwake)
    (takes : Takes stimulus scene.inbox rest)
    (onset : Onset now scene.engine stimulus first after.engine) (inbox : after.inbox = rest)
    (streams : after.streams = scene.streams)
    (record : after.record = scene.record ++ .heard now stimulus :: first.flatMap (sightsOf now))
    (effects : effectsIn after.record = effectsIn scene.record ++ first) :
    Reception settings.maxPayload
      (fun number => answersOn number (effectsIn after.record) ++ after.due number) after.streams
      after.record := by
  have deaf : AreDeaf (.heard now stimulus :: first.flatMap (sightsOf now)) :=
    .cons (fun _ => rfl) (fun _ => nofun) (areDeaf_sightsOf now first)
  have fewer : after.inbox.Sublist scene.inbox := by
    rw [inbox]
    cases stimulus with
    | report generation report =>
        rw [show scene.inbox = (generation, report) :: rest from takes]
        exact List.sublist_cons_self _ _
    | _ => exact (show scene.inbox = rest from takes) ▸ .refl _
  have due (number : Nat) : (after.due number).Sublist (scene.due number) := by
    apply due_later correlated.wired awake.running fewer
    refine onset.generation_cases.imp_right (Or.imp_right fun stays => ⟨stays.1, ?_⟩)
    intro place member
    refine (stays.2 place member).imp_right fun connected => ?_
    subst connected
    rw [show scene.inbox = _ :: rest from takes]
    exact List.mem_cons_self
  refine correlated.listen streams record deaf fun number => ?_
  rw [effects]
  rcases onset.isAnswer_cases with silent | ⟨packet, entry, table, rfl, found, rfl, left⟩
  · have same : answersOn number (effectsIn scene.record ++ first) =
        answersOn number (effectsIn scene.record) := by
      unfold answersOn
      rw [correlated.duty_silent awake takes onset silent]
      rfl
    rw [same]
    exact List.Sublist.append_left (due number) _
  · have here : scene.inbox = (scene.engine.generation, .frame packet) :: rest := takes
    obtain ⟨place, linked⟩ := (correlated.wired.live awake.running).linked_of_frame here
    rw [correlated.answersOn_answer linked, List.append_assoc]
    apply List.Sublist.append_left
    split
    · next same =>
        subst same
        rw [due_of_frame awake.running linked here]
        refine List.Sublist.cons_cons packet ?_
        have heard := after.due_le place
        rw [left, inbox] at heard
        exact heard
    · exact due number

theorem reception_tick (correlated : scene.IsCorrelated settings) {effects : List Effect}
    {engine : Engine} (awake : scene.engine.IsAwake) (tick : Tick now scene.engine effects engine) :
    Reception settings.maxPayload
      (fun number => answersOn number
        (effectsIn ((scene.performAll now effects).withEngine engine).record) ++
          ((scene.performAll now effects).withEngine engine).due number)
      ((scene.performAll now effects).withEngine engine).streams
      ((scene.performAll now effects).withEngine engine).record := by
  refine correlated.listen (streams_performAll now effects scene)
    (record_performAll now effects scene) (areDeaf_sightsOf now effects) fun number => ?_
  have answers : answersOn number (effectsIn scene.record ++ effects) =
      answersOn number (effectsIn scene.record) := by
    unfold answersOn
    rw [dutyAfter_append, correlated.duty_eq, tick.duty]
    rfl
  rw [effectsIn_tick, answers]
  apply List.Sublist.append_left
  apply due_later correlated.wired awake.running
  · exact (performAll_inbox now effects scene) ▸ .refl _
  · refine .inr (tick.generation_cases.imp_right fun stays => ⟨stays.1, fun place member => ?_⟩)
    exact .inl (stays.2 ▸ member)

theorem reception_farewell (correlated : scene.IsCorrelated settings) {effects : List Effect}
    (said : ∀ effect ∈ effects, scene.engine.life.isFarewell effect = true) :
    Reception settings.maxPayload
      (fun number => answersOn number (effectsIn (scene.performAll now effects).record) ++
        (scene.performAll now effects).due number)
      (scene.performAll now effects).streams (scene.performAll now effects).record := by
  refine correlated.listen (streams_performAll now effects scene)
    (record_performAll now effects scene) (areDeaf_sightsOf now effects) fun number => ?_
  have leaves := fun effect member =>
    (Client.Life.silent_of_isFarewell (said effect member)
      (dutyAfter (effectsIn scene.record)).socket).2
  have answers : answersOn number (effectsIn scene.record ++ effects) =
      answersOn number (effectsIn scene.record) := by
    unfold answersOn
    rw [dutyAfter_append, Duty.followAll_of_leaves leaves]
  rw [effectsIn_performAll, answers,
    due_congr (performAll_engine now effects scene) (performAll_inbox now effects scene)]

/-- On a socket that is not there yet, nothing was answered and nothing is due. -/
theorem unborn (correlated : scene.IsCorrelated settings) {attempt : Attempt}
    (here : scene.attempt = some attempt) :
    answersOn scene.streams.length (effectsIn scene.record) ++ scene.due scene.streams.length =
      [] := by
  have length : scene.streams.length = scene.sockets.length := List.length_map _
  have unattached : scene.streams.length ∉ attachedIn (effectsIn scene.record) := fun member =>
    Nat.lt_irrefl _ (length ▸ correlated.wired.known _ member)
  rw [Client.answersOn_eq_nil unattached]
  by_cases running : scene.engine.life = .running
  · obtain ⟨-, silent⟩ := (correlated.wired.live running).of_attempt here
    exact due_eq_nil (framesFor_eq_nil fun entry member now => absurd now (silent entry member))
  · exact due_of_not fun server => running server.1

theorem reception_write (correlated : scene.IsCorrelated settings) {number : Nat} {socket : Socket}
    (there : scene.streams[number]? = some socket.stream) :
    Reception settings.maxPayload
      (fun number => answersOn number (effectsIn scene.record) ++ scene.due number)
      (scene.streams.modify number (Stream.arrive socket.write.echo))
      (scene.record ++ socket.write.sights number) := by
  have deaf : AreDeaf (if socket.write.sent.isEmpty then [] else [.sent number socket.write.sent]) := by
    split
    · exact .nil
    · exact .cons (fun _ => rfl) (fun _ => nofun) .nil
  have sent := correlated.reception.note deaf
  unfold Socket.Written.sights
  rw [← List.append_assoc]
  by_cases nothing : socket.write.echo = []
  · have idle : Stream.arrive [] = id := funext Stream.arrive_nil
    have empty : ([] : List Wire.Piece).isEmpty = true := rfl
    rw [nothing, idle, List.modify_id, if_pos empty, List.append_nil]
    exact sent
  · have some : ¬socket.write.echo.isEmpty = true := fun empty => nothing (List.isEmpty_iff.mp empty)
    rw [if_neg some]
    exact sent.arrive there socket.write.echo

/-- Every beat keeps what readers have given out in step with what the engine hears. -/
theorem reception_beat (correlated : scene.IsCorrelated settings) (beat : Beat scene after) :
    Reception settings.maxPayload
      (fun number => answersOn number (effectsIn after.record) ++ after.due number) after.streams
      after.record := by
  have reception := correlated.reception
  have stay {after : Scene} (same : after.streams = scene.streams)
      (record : after.record = scene.record) (due : after.due = scene.due) :
      Reception settings.maxPayload
        (fun number => answersOn number (effectsIn after.record) ++ after.due number) after.streams
        after.record := by
    rw [same, record, due]
    exact reception
  have noted {after : Scene} {streams : List Stream} {sights : List Sight}
      (held : Reception settings.maxPayload
        (fun number => answersOn number (effectsIn scene.record) ++ scene.due number) streams
        (scene.record ++ sights))
      (same : after.streams = streams) (record : after.record = scene.record ++ sights)
      (silent : effectsIn sights = []) (due : after.due = scene.due) :
      Reception settings.maxPayload
        (fun number => answersOn number (effectsIn after.record) ++ after.due number) after.streams
        after.record := by
    rw [same, record, effectsIn_append, silent, List.append_nil, due]
    exact held
  have added (echo : Bool) (script : Link.Script) (isOpen : Bool) {generation : Nat} :
      (scene.sockets ++ [{ Socket.fresh scene.sockets.length generation
        scene.engine.settings.maxPayload echo script with isOpen }]).map Socket.stream =
          scene.streams ++ [.fresh settings.maxPayload] := by
    rw [List.map_append, ← correlated.lifecycle.same]
    rfl
  cases beat with
  | show_ board => exact reception
  | commence here stage => exact reception
  | hear awake takes onset =>
      exact correlated.reception_hear awake takes onset (performAll_inbox _ _ _)
        (streams_performAll _ _ _) ((record_performAll _ _ _).trans (List.append_assoc _ _ _))
        (effectsIn_hear _ _ _ _ _ _)
  | @miss now stimulus rest ceased takes =>
      have heard : AreDeaf [.heard now stimulus] := .cons (fun _ => rfl) (fun _ => nofun) .nil
      refine noted (reception.note heard) rfl rfl rfl (funext fun number => ?_)
      have idle : scene.due number = [] := due_of_not fun server => ceased server.1
      rw [idle]
      exact due_of_not fun server => ceased server.1
  | tick awake tick => exact correlated.reception_tick awake tick
  | farewell said => exact correlated.reception_farewell said
  | fail here failure =>
      refine stay (streams_mail _ _ _) (mail_record _ _ _) (due_mail fun report member => ?_)
      rw [List.mem_singleton.mp member]
      exact ⟨rfl, fun _ => nofun⟩
  | @accept attempt here running nodelay echo script =>
      obtain ⟨-, silent⟩ := (correlated.wired.live running).of_attempt here
      have deaf : AreDeaf [.accepted scene.sockets.length nodelay] :=
        .cons (fun _ => rfl) (fun _ => nofun) .nil
      refine noted ((reception.push (correlated.unborn here)).note deaf) ?_ (mail_record _ _ _) rfl ?_
      · rw [streams_mail]
        exact added echo script true
      · refine due_mail_connected ?_ ?_ _ _
        · exact running
        · exact silent
  | @reject attempt left here later nodelay echo script =>
      have closed : AreDeaf [.closed scene.sockets.length] :=
        .cons (fun _ => rfl) (fun _ => nofun) .nil
      have deaf : AreDeaf [.accepted scene.sockets.length nodelay, .closed scene.sockets.length] :=
        .cons (fun _ => rfl) (fun _ => nofun) closed
      exact noted ((reception.push (correlated.unborn here)).note deaf) (added echo script false) rfl
        rfl rfl
  | @read number socket there isOpen =>
      have gave := reception.read (streams_of_socket there)
        (fun place => if place = number then socket.stream.reading.frames else []) (if_pos rfl)
        fun place differs => if_neg differs
      have same : (scene.onSocket number fun _ => socket.read.1).streams =
          scene.streams.modify number Stream.read := by
        apply streams_onSocket scene number
        intro other member
        cases there.symm.trans member
        rfl
      rw [mail_record, streams_mail, same]
      refine gave.mono fun place _ _ => ?_
      rw [List.append_assoc]
      exact List.Sublist.append_left (due_read correlated.wired there place) _
  | @write number socket there isOpen =>
      have quiet := effectsIn_sights socket.write number
      have written := correlated.reception_write (streams_of_socket there)
      refine noted written ?_ (mail_record _ _ _) quiet (due_mail fun report member => ?_)
      · rw [streams_mail]
        apply streams_onSocket scene number
        intro other member
        cases there.symm.trans member
        exact Socket.stream_arrive _ _
      · rcases Socket.mem_write (Option.mem_toList.mp member) with rfl | ⟨_, _, rfl⟩
        · exact ⟨rfl, fun _ => nofun⟩
        · exact ⟨rfl, fun _ => nofun⟩
  | @arrive number socket there isOpen pieces =>
      refine noted (reception.arrive (streams_of_socket there) pieces) ?_ rfl rfl rfl
      exact streams_onSocket scene number fun other _ => other.stream_arrive pieces
  | @finish number socket there isOpen =>
      refine noted (reception.finish (streams_of_socket there)) ?_ rfl rfl rfl
      exact streams_onSocket scene number fun other member => rfl
  | release number => exact stay (streams_same scene number fun _ => rfl) rfl rfl
  | prepare number script => exact stay (streams_same scene number fun _ => rfl) rfl rfl

theorem beat (correlated : scene.IsCorrelated settings) (beat : Beat scene after) :
    after.IsCorrelated settings where
  wired := correlated.wired.beat beat
  lifecycle := beat.keeps (Client.Lifecycle.isKept settings) correlated.lifecycle
  duty := correlated.duty_pulse beat.pulse
  requested := correlated.requested_pulse beat.pulse
  accounted := correlated.accounted_pulse beat.pulse
  reception := correlated.reception_beat beat

theorem start (endpoint : Endpoint) (settings : Settings) (source : SyncSource)
    (plans : List Plan) (fallback : Plan) :
    (Simulation.start endpoint settings source plans fallback).scene.IsCorrelated settings := by
  have nothing {earlier : List Sight} {sight : Sight} (prior : earlier ++ [sight] <+: []) :
      False := by
    have empty := List.prefix_nil.mp prior
    simp at empty
  constructor
  case wired => exact .start endpoint settings source plans fallback
  case lifecycle => exact ⟨rfl, fun _ => rfl, nofun, nofun⟩
  case duty => rfl
  case requested => exact nofun
  case accounted => exact ⟨fun _ _ _ _ prior => (nothing prior).elim, fun _ _ _ _ prior => (nothing prior).elim⟩
  case reception => exact ⟨nofun, nofun, fun _ _ => ⟨rfl, nofun⟩⟩

end Scene.IsCorrelated

/-- After every schedule, whoever was told of a response had asked for it: the frame carries
the id of a request made before, was heard right then from the socket that was served, and
answered this request and nothing else.  On each socket, the frames that answered requests and
pings are frames that the socket has received by then, one each, in the order in which they
stand in its stream.  A socket that was given up answers nothing more and is never served
again.  And the frames of a stream are its bytes, without a gap, each one a whole frame. -/
theorem Simulation.responses_are_correlated (endpoint : Endpoint) (settings : Settings)
    (source : SyncSource) (plans : List Plan) (fallback : Plan) (schedule : List Doing) :
    let record := ((Simulation.start endpoint settings source plans fallback).after schedule).record
    let effects := effectsIn record
    let limit := settings.maxPayload
    (∀ earlier time ticket packet,
      earlier ++ [.engine time (.resolved ticket (.ok packet))] <+: record →
        ∃ before generation number entry,
          earlier = before ++ [.heard time (.report generation (.frame packet)),
            .engine time (.answered entry packet)] ∧
          entry.waiter = .caller ticket ∧ Answers limit before number entry packet) ∧
      (∀ earlier time entry packet,
        earlier ++ [.engine time (.answered entry packet)] <+: record →
          ∃ before generation number,
            earlier = before ++ [.heard time (.report generation (.frame packet))] ∧
            Answers limit before number entry packet) ∧
      (∀ number,
        (answersOn number effects).Sublist (framesIn limit (receivedOn number record))) ∧
      (∀ number past rest, effects = past ++ .closed number :: rest → number ∈ attachedIn past →
        number ∉ attachedIn rest ∧ answersOn number effects = answersOn number past) ∧
      ∀ octets, (framesIn limit octets).flatMap Packet.data <+: octets ∧
        ∀ packet ∈ framesIn limit octets, Packet.ofFrame packet.data = .ok packet := by
  intro record effects limit
  have correlated : ((Simulation.start endpoint settings source plans fallback).after
      schedule).scene.IsCorrelated settings :=
    Simulation.after_holds endpoint settings source plans fallback
      (.start endpoint settings source plans fallback) (fun beat correlated => correlated.beat beat)
      schedule
  refine ⟨fun earlier time ticket packet prior => ?_, correlated.accounted.answered,
    fun number => ?_, fun number past rest whole served => ?_, framesIn_whole limit⟩
  · obtain ⟨middle, entry, waiter, rfl⟩ :=
      correlated.accounted.resolved earlier time ticket packet prior
    have answered := (List.prefix_append _ _).trans prior
    obtain ⟨before, generation, number, rfl, answers⟩ :=
      correlated.accounted.answered middle time entry packet answered
    exact ⟨before, generation, number, entry, List.append_assoc _ _ _, waiter, answers⟩
  · cases there : ((start endpoint settings source plans fallback).after
        schedule).scene.streams[number]? with
    | some stream =>
        have given := (correlated.reception.gives number stream there).sublist
        exact (List.sublist_append_left _ _).trans given
    | none =>
        have beyond := List.getElem?_eq_none_iff.mp there
        have unattached : number ∉ attachedIn effects := fun attached => by
          have known := correlated.wired.known number attached
          rw [Scene.streams, List.length_map] at beyond
          exact Nat.not_le_of_lt known beyond
        rw [Client.answersOn_eq_nil unattached]
        exact List.nil_sublist _
  · have once : (attachedIn (past ++ .closed number :: rest)).Nodup := whole ▸ correlated.wired.once
    rw [whole]
    refine ⟨fun again => ?_, Client.answersOn_of_closed once served⟩
    rw [attachedIn_append] at once
    exact (List.nodup_append.mp once).2.2 number served number again rfl

end RequestMux.Network
