import RequestMux.Proofs.Client.Answers
import RequestMux.Proofs.Network.Reception
import RequestMux.Proofs.Network.Wired

/-!
# What the engine is still to hear

Frames that wait in the inbox come from the socket that is served or about to be, if they
are of the current generation.  A generation that goes on has no more to hear than its
reader gave out, and a new one begins with nothing.
-/

namespace RequestMux.Network

open Client (Effect Onset Report Stimulus Time)
open Wire (Packet)

/-- The frame that a report brings from the socket of a generation. -/
def frameFor? (generation : Nat) (entry : Nat × Report) : Option Packet :=
  if entry.1 = generation then entry.2.frame? else none

def framesFor (generation : Nat) (inbox : List (Nat × Report)) : List Packet :=
  inbox.filterMap (frameFor? generation)

theorem framesFor_append (generation : Nat) (inbox more : List (Nat × Report)) :
    framesFor generation (inbox ++ more) = framesFor generation inbox ++ framesFor generation more :=
  List.filterMap_append

theorem framesFor_reports (generation : Nat) (reading : Link.Reading) :
    framesFor generation (reading.reports.map fun report => (generation, report)) =
      reading.frames := by
  simp [framesFor, frameFor?, Link.Reading.reports, Report.frame?, List.filterMap_map,
    Function.comp_def]

theorem framesFor_eq_nil {generation : Nat} {inbox : List (Nat × Report)}
    (none : ∀ entry ∈ inbox, entry.1 = generation → entry.2.frame? = none) :
    framesFor generation inbox = [] := by
  refine List.filterMap_eq_nil_iff.mpr fun entry member => ?_
  unfold frameFor?
  split
  · next current => exact none entry member current
  · rfl

namespace Scene

/-- Whether a socket is served by the running engine, or about to be. -/
def IsServer (scene : Scene) (number : Nat) : Prop :=
  scene.engine.life = .running ∧
    (scene.engine.link = some number ∨ (scene.engine.generation, .connected number) ∈ scene.inbox)

instance (scene : Scene) (number : Nat) : Decidable (scene.IsServer number) :=
  inferInstanceAs (Decidable (_ ∧ (_ ∨ _)))

/-- The frames of a socket that the engine is still to hear. -/
def due (scene : Scene) (number : Nat) : List Packet :=
  if scene.IsServer number then framesFor scene.engine.generation scene.inbox else []

variable {scene after : Scene} {number : Nat}

theorem due_of_server (server : scene.IsServer number) :
    scene.due number = framesFor scene.engine.generation scene.inbox :=
  if_pos server

theorem due_of_frame (running : scene.engine.life = .running)
    (linked : scene.engine.link = some number) {packet : Packet} {rest : List (Nat × Report)}
    (first : scene.inbox = (scene.engine.generation, .frame packet) :: rest) :
    scene.due number = packet :: framesFor scene.engine.generation rest := by
  have current : frameFor? scene.engine.generation (scene.engine.generation, .frame packet) =
      some packet := if_pos rfl
  rw [due_of_server ⟨running, .inl linked⟩, first]
  exact List.filterMap_cons_some current

theorem due_of_not (idle : ¬scene.IsServer number) : scene.due number = [] :=
  if_neg idle

theorem due_sublist (less : after.IsServer number → scene.IsServer number ∧
    (framesFor after.engine.generation after.inbox).Sublist
      (framesFor scene.engine.generation scene.inbox)) :
    (after.due number).Sublist (scene.due number) := by
  by_cases serves : after.IsServer number
  · obtain ⟨served, fewer⟩ := less serves
    rw [due_of_server serves, due_of_server served]
    exact fewer
  · rw [due_of_not serves]
    exact List.nil_sublist _

theorem due_eq_nil (silent : framesFor scene.engine.generation scene.inbox = []) :
    scene.due number = [] := by
  unfold due
  split
  · exact silent
  · rfl

theorem due_congr (engine : after.engine = scene.engine) (inbox : after.inbox = scene.inbox) :
    after.due number = scene.due number := by
  have same : after.IsServer number ↔ scene.IsServer number := by
    unfold IsServer
    rw [engine, inbox]
  by_cases serves : scene.IsServer number
  · rw [due_of_server serves, due_of_server (same.mpr serves), engine, inbox]
  · rw [due_of_not serves, due_of_not fun server => serves (same.mp server)]

theorem due_le (scene : Scene) (number : Nat) :
    (scene.due number).Sublist (framesFor scene.engine.generation scene.inbox) := by
  unfold due
  split
  · exact .refl _
  · exact List.nil_sublist _

/-- The frames among reports that bring no socket are due behind the others, from the socket that
is served or about to be. -/
theorem due_mail_cases {generation : Nat} {reports : List Report}
    (bare : ∀ report ∈ reports, ∀ place, report ≠ .connected place) :
    (scene.mail generation reports).due number = scene.due number ∨
      scene.IsServer number ∧ (scene.mail generation reports).due number =
        scene.due number ++ framesFor scene.engine.generation
          (reports.map fun report => (generation, report)) := by
  by_cases running : scene.engine.life = .running
  · let sent := reports.map fun report => (generation, report)
    let mailed : Scene := { scene with inbox := scene.inbox ++ sent }
    have same : mailed.IsServer number ↔ scene.IsServer number := by
      constructor
      · rintro ⟨-, serves⟩
        refine ⟨running, serves.imp_right fun connected => ?_⟩
        refine (List.mem_append.mp connected).resolve_right fun new => ?_
        obtain ⟨report, member, same⟩ := List.mem_map.mp new
        exact bare report member number (Prod.mk.inj same).2
      · rintro ⟨-, serves⟩
        exact ⟨running, serves.imp_right (List.mem_append_left sent)⟩
    rw [mail_running scene running]
    by_cases serves : scene.IsServer number
    · refine .inr ⟨serves, ?_⟩
      rw [due_of_server serves, ← framesFor_append]
      exact due_of_server (same.mpr serves)
    · refine .inl ?_
      rw [due_of_not serves]
      exact due_of_not fun server => serves (same.mp server)
  · rw [mail_over scene running]
    exact .inl rfl

/-- Reports that bring neither a frame nor a socket leave what is due. -/
theorem due_mail {generation : Nat} {reports : List Report}
    (plain : ∀ report ∈ reports, report.frame? = none ∧ ∀ place, report ≠ .connected place) :
    (scene.mail generation reports).due = scene.due := by
  funext number
  have nothing : framesFor scene.engine.generation
      (reports.map fun report => (generation, report)) = [] := by
    apply framesFor_eq_nil
    intro entry member _
    obtain ⟨report, here, rfl⟩ := List.mem_map.mp member
    exact (plain report here).1
  rcases due_mail_cases fun report member => (plain report member).2 with same | ⟨-, more⟩
  · exact same
  · rw [more, nothing, List.append_nil]

/-- With nothing of the current generation in the inbox, a socket that comes brings nothing. -/
theorem due_mail_connected (running : scene.engine.life = .running)
    (silent : ∀ entry ∈ scene.inbox, entry.1 ≠ scene.engine.generation) (generation place : Nat) :
    (scene.mail generation [.connected place]).due = scene.due := by
  have nothing : framesFor scene.engine.generation scene.inbox = [] :=
    framesFor_eq_nil fun entry member current => absurd current (silent entry member)
  have still : framesFor scene.engine.generation
      (scene.inbox ++ [(generation, .connected place)]) = [] := by
    rw [framesFor_append, nothing]
    apply framesFor_eq_nil
    intro entry member _
    rw [List.mem_singleton.mp member]
    rfl
  funext number
  rw [mail_running scene running, due_eq_nil nothing]
  exact due_eq_nil still

/-- A generation that goes on has no more to hear than before, and a new one nothing. -/
theorem due_later (wired : scene.IsWired) (running : scene.engine.life = .running)
    (inbox : after.inbox.Sublist scene.inbox)
    (turn : after.engine.life ≠ .running ∨
      scene.engine.generation < after.engine.generation ∧ after.engine.link = none ∨
      after.engine.generation = scene.engine.generation ∧ ∀ place ∈ after.engine.link,
        scene.engine.link = some place ∨
          (scene.engine.generation, .connected place) ∈ scene.inbox) :
    (after.due number).Sublist (scene.due number) := by
  apply due_sublist
  rintro ⟨stillRunning, serves⟩
  rcases turn with ceased | ⟨newer, unlinked⟩ | ⟨same, linked⟩
  · exact absurd stillRunning ceased
  · rcases serves with linked | connected
    · exact nomatch unlinked.symm.trans linked
    · have old := wired.mailed _ (inbox.subset connected)
      exact absurd newer (Nat.not_lt_of_le old)
  · rw [same]
    refine ⟨⟨running, ?_⟩, inbox.filterMap _⟩
    rcases serves with here | connected
    · exact linked number here
    · rw [same] at connected
      exact .inr (inbox.subset connected)

/-- Only one socket is served or about to be. -/
theorem IsLive.server_unique (live : scene.IsLive) {other : Nat} (one : scene.IsServer number)
    (two : scene.IsServer other) : number = other := by
  have counted {place : Nat} (member : (scene.engine.generation, Report.connected place) ∈ scene.inbox) :
      1 ≤ scene.inbox.countP (isVerdict scene.engine.generation) :=
    List.countP_pos_iff.mpr ⟨_, member, isVerdict_iff.mpr ⟨rfl, rfl⟩⟩
  have single := live.single
  unfold tokens at single
  rcases one.2 with linked | connected
  · rcases two.2 with alsoLinked | alsoConnected
    · exact Option.some.inj (linked.symm.trans alsoLinked)
    · have some := counted alsoConnected
      rw [linked, Option.toList_some, List.length_singleton] at single
      omega
  · rcases two.2 with alsoLinked | alsoConnected
    · have some := counted connected
      rw [alsoLinked, Option.toList_some, List.length_singleton] at single
      omega
    · obtain ⟨before, behind, inbox⟩ := List.append_of_mem connected
      have verdict : isVerdict scene.engine.generation
          (scene.engine.generation, .connected number) = true := isVerdict_iff.mpr ⟨rfl, rfl⟩
      rw [inbox, List.countP_append, List.countP_cons_of_pos verdict] at single
      have rest : (before ++ behind).countP (isVerdict scene.engine.generation) = 0 := by
        rw [List.countP_append]
        omega
      rw [inbox] at alsoConnected
      by_contra differs
      have member : (scene.engine.generation, Report.connected other) ∈ before ++ behind := by
        rcases List.mem_append.mp alsoConnected with early | late
        · exact List.mem_append_left behind early
        · rcases List.mem_cons.mp late with same | later
          · cases same
            exact absurd rfl differs
          · exact List.mem_append_right before later
      exact List.countP_eq_zero.mp rest _ member (isVerdict_iff.mpr ⟨rfl, rfl⟩)

/-- A frame of the current generation comes from the socket that is served. -/
theorem IsLive.linked_of_frame (live : scene.IsLive) {packet : Packet} {rest : List (Nat × Report)}
    (first : scene.inbox = (scene.engine.generation, .frame packet) :: rest) :
    ∃ number, scene.engine.link = some number := by
  have here : (scene.engine.generation, Report.frame packet) ∈ scene.inbox := by
    rw [first]
    exact List.mem_cons_self
  rcases live.served _ here rfl with linked | ⟨number, connected⟩ | ⟨failure, failed⟩
  · exact Option.isSome_iff_exists.mp linked
  · obtain ⟨before, behind, inbox⟩ := List.append_of_mem connected
    cases before with
    | nil => cases (first.symm.trans inbox)
    | cons entry before =>
        have same : entry = (scene.engine.generation, .frame packet) :=
          (List.cons.inj (first.symm.trans inbox)).1.symm
        refine absurd ?_ (live.ordered (entry :: before) number behind inbox entry List.mem_cons_self)
        rw [same]
  · cases failed

/-- A socket on which something is received is served, if it is of the current generation. -/
theorem IsLive.server_of_frames (live : scene.IsLive) (running : scene.engine.life = .running)
    {socket : Socket} (there : scene.sockets[number]? = some socket)
    (current : socket.generation = scene.engine.generation)
    (some : socket.stream.reading.frames ≠ []) : scene.IsServer number := by
  rcases live.spare number socket there current with linked | connected | ⟨-, blank⟩
  · exact ⟨running, .inl linked⟩
  · exact ⟨running, .inr connected⟩
  · have silent : socket.stream.reading.frames.map Report.frame ++
        socket.stream.reading.fault.toList.map .readFailed = [] := blank.read.1
    exact absurd (List.map_eq_nil_iff.mp (List.append_eq_nil_iff.mp silent).1) some

def streams (scene : Scene) : List Stream := scene.sockets.map Socket.stream

theorem streams_of_socket {socket : Socket} (there : scene.sockets[number]? = some socket) :
    scene.streams[number]? = some socket.stream := by
  unfold streams
  rw [List.getElem?_map, there]
  rfl

theorem streams_onSocket {change : Socket → Socket} {alter : Stream → Stream} (scene : Scene)
    (number : Nat)
    (alike : ∀ socket ∈ scene.sockets[number]?, (change socket).stream = alter socket.stream) :
    (scene.onSocket number change).streams = scene.streams.modify number alter := by
  change (scene.sockets.modify number change).map Socket.stream = _
  unfold streams
  refine List.ext_getElem? fun place => ?_
  rw [List.getElem?_map, List.getElem?_modify, List.getElem?_modify, List.getElem?_map]
  split
  · next here =>
      subst here
      cases there : scene.sockets[number]? with
      | none => rfl
      | some socket => exact congrArg some (alike socket there)
  · cases scene.sockets[place]? <;> rfl

theorem streams_same {change : Socket → Socket} (scene : Scene) (number : Nat)
    (same : ∀ socket, (change socket).stream = socket.stream) :
    (scene.onSocket number change).streams = scene.streams := by
  have altered : (scene.onSocket number change).streams = scene.streams.modify number id :=
    streams_onSocket scene number fun socket _ => same socket
  rw [altered, List.modify_id]

theorem streams_performAll (now : Time) (effects : List Effect) (scene : Scene) :
    (scene.performAll now effects).streams = scene.streams := by
  induction effects generalizing scene with
  | nil => rfl
  | cons effect rest ih =>
      have one : (scene.perform now effect).streams = scene.streams := by
        cases effect with
        | handed socket write => exact streams_same _ socket fun _ => rfl
        | closed socket => exact streams_same _ socket fun _ => rfl
        | _ => rfl
      exact (ih (scene.perform now effect)).trans one

@[simp]
theorem streams_mail (scene : Scene) (generation : Nat) (reports : List Report) :
    (scene.mail generation reports).streams = scene.streams :=
  congrArg (List.map Socket.stream) (mail_sockets scene generation reports)

/-- What a reader gives out is due from its socket, if it is from any. -/
theorem due_read (wired : scene.IsWired) {socket : Socket}
    (there : scene.sockets[number]? = some socket) (place : Nat) :
    (((scene.onSocket number fun _ => socket.read.1).mail socket.generation
        socket.read.2).due place).Sublist
      (scene.due place ++ if place = number then socket.stream.reading.frames else []) := by
  let sent := socket.read.2.map fun report => (socket.generation, report)
  have bare : ∀ report ∈ socket.read.2, ∀ place, report ≠ .connected place := by
    intro report member
    rcases Socket.mem_read member with ⟨packet, rfl⟩ | ⟨fault, rfl⟩
    · exact fun _ => nofun
    · exact fun _ => nofun
  have moved : (scene.onSocket number fun _ => socket.read.1).due place = scene.due place := rfl
  rcases due_mail_cases bare with same | ⟨served, more⟩
  · rw [same, moved]
    exact List.sublist_append_left _ _
  · rw [more, moved]
    apply List.Sublist.append_left
    change (framesFor scene.engine.generation sent).Sublist _
    by_cases current : socket.generation = scene.engine.generation
    · have frames : framesFor scene.engine.generation sent = socket.stream.reading.frames := by
        rw [← current]
        exact framesFor_reports socket.generation socket.stream.reading
      rw [frames]
      split
      · exact .refl _
      · next differs =>
          by_cases some : socket.stream.reading.frames = []
          · exact some ▸ .refl _
          · have live := wired.live served.1
            have server := live.server_of_frames served.1 there current some
            exact absurd (live.server_unique served server) differs
    · have nothing : framesFor scene.engine.generation sent = [] := by
        apply framesFor_eq_nil
        intro entry member now
        obtain ⟨report, -, rfl⟩ := List.mem_map.mp member
        exact absurd now current
      rw [nothing]
      exact List.nil_sublist _

/-- A socket that is served does not come a second time, for an older generation. -/
theorem IsWired.apart {stimulus : Stimulus} {rest : List (Nat × Report)}
    (wired : scene.IsWired) (running : scene.engine.life = .running)
    (takes : Takes stimulus scene.inbox rest) (generation place : Nat)
    (connected : stimulus = .report generation (.connected place))
    (old : generation ≠ scene.engine.generation) : scene.engine.link ≠ some place := by
  subst connected
  intro linked
  have first : scene.inbox = (generation, .connected place) :: rest := takes
  obtain ⟨socket, there, introduced⟩ :=
    wired.introduced generation place (first ▸ List.mem_cons_self)
  obtain ⟨same, here, current⟩ := (wired.live running).linked place linked
  cases there.symm.trans here
  exact old (introduced.symm.trans current)

end Scene

/-- Everything that is seen of the engine is nothing to the sockets that receive. -/
theorem areDeaf_sightsOf (now : Time) (effects : List Effect) :
    AreDeaf (effects.flatMap (Scene.sightsOf now)) := by
  have one (effect : Effect) : AreDeaf (Scene.sightsOf now effect) := by
    have seen : AreDeaf [.engine now effect] := .cons (fun _ => rfl) (fun _ => nofun) .nil
    cases effect with
    | closed number =>
        have closing : AreDeaf [.closed number] := .cons (fun _ => rfl) (fun _ => nofun) .nil
        exact .cons (fun _ => rfl) (fun _ => nofun) closing
    | _ => exact seen
  intro sight member
  obtain ⟨effect, -, seen⟩ := List.mem_flatMap.mp member
  exact one effect sight seen

end RequestMux.Network
