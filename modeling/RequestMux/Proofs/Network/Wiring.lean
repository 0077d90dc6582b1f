import RequestMux.Proofs.Client.Stretch
import RequestMux.Proofs.Network.Beats

/-!
# How sockets belong to the engine

At any time there is at most one attempt, one report of how an attempt ended, or one
socket that is served.  So every socket of the current generation is the one that is
served or about to be, or it was closed before anything happened on it, and what the
tasks of the current generation report comes from the socket that is served.
-/

namespace RequestMux.Network

open Client (Effect Engine Onset Report Stimulus Tick Time attachedIn attachedIn_append)
open Wire (Piece)

/-- A socket on which nothing has happened. -/
structure Socket.IsBlank (socket : Socket) : Prop where
  pieces : socket.pieces = []
  going : socket.ended = false
  held : socket.writer.held = none
  waiting : socket.writer.waiting = []

/-- Sockets that may differ in what happened on them, but those that are closed and blank stay
so, unless they are served. -/
structure Socket.Alters (link : Option Nat) (old new : List Socket) : Prop where
  length : new.length = old.length
  generation : ∀ (number : Nat) (before after : Socket), old[number]? = some before →
    new[number]? = some after → after.generation = before.generation
  blank : ∀ (number : Nat) (before after : Socket), old[number]? = some before →
    new[number]? = some after → link ≠ some number → before.isOpen = false → before.IsBlank →
      after.isOpen = false ∧ after.IsBlank

namespace Socket.Alters

theorem refl (link : Option Nat) (sockets : List Socket) : Socket.Alters link sockets sockets where
  length := rfl
  generation number before after old new := by
    rw [old] at new
    cases new
    rfl
  blank number before after old new _ closed blank := by
    rw [old] at new
    cases new
    exact ⟨closed, blank⟩

theorem modify (link : Option Nat) (sockets : List Socket) (number : Nat)
    {change : Socket → Socket}
    (generation : ∀ socket ∈ sockets[number]?, (change socket).generation = socket.generation)
    (blank : link ≠ some number → ∀ socket ∈ sockets[number]?, socket.isOpen = false →
      socket.IsBlank → (change socket).isOpen = false ∧ (change socket).IsBlank) :
    Socket.Alters link sockets (sockets.modify number change) where
  length := List.length_modify _ _ _
  generation place before after old new := by
    obtain ⟨prior, here, ⟨rfl, rfl⟩ | ⟨-, rfl⟩⟩ := of_modify new
    · cases here.symm.trans old
      exact generation _ old
    · cases here.symm.trans old
      rfl
  blank place before after old new unserved closed isBlank := by
    obtain ⟨prior, here, ⟨rfl, rfl⟩ | ⟨-, rfl⟩⟩ := of_modify new
    · cases here.symm.trans old
      exact blank unserved _ old closed isBlank
    · cases here.symm.trans old
      exact ⟨closed, isBlank⟩

variable {link : Option Nat} {old new : List Socket}

theorem forward (alters : Socket.Alters link old new) {number : Nat} {before : Socket}
    (there : old[number]? = some before) :
    ∃ after, new[number]? = some after ∧ after.generation = before.generation := by
  have bound : number < new.length := by
    rw [alters.length]
    exact (List.getElem?_eq_some_iff.mp there).1
  have here : new[number]? = some new[number] := List.getElem?_eq_getElem bound
  exact ⟨_, here, alters.generation _ _ _ there here⟩

theorem backward (alters : Socket.Alters link old new) {number : Nat} {after : Socket}
    (there : new[number]? = some after) :
    ∃ before, old[number]? = some before ∧ after.generation = before.generation := by
  have bound : number < old.length := by
    rw [← alters.length]
    exact (List.getElem?_eq_some_iff.mp there).1
  have here : old[number]? = some old[number] := List.getElem?_eq_getElem bound
  exact ⟨_, here, alters.generation _ _ _ here there⟩

end Socket.Alters

/-- Whether a report tells how an attempt ended. -/
def concludes : Report → Bool
  | .connected _ => true
  | .connectFailed _ => true
  | _ => false

def isVerdict (generation : Nat) (entry : Nat × Report) : Bool :=
  entry.1 == generation && concludes entry.2

theorem isVerdict_iff {generation : Nat} {entry : Nat × Report} :
    isVerdict generation entry = true ↔ entry.1 = generation ∧ concludes entry.2 = true := by
  simp [isVerdict]

namespace Scene

/-- How many attempts, reports of how an attempt ended, and served sockets there are. -/
def tokens (scene : Scene) : Nat :=
  scene.attempt.toList.length + scene.inbox.countP (isVerdict scene.engine.generation) +
    scene.engine.link.toList.length

/-- What is so as long as the engine runs. -/
structure IsLive (scene : Scene) : Prop where
  single : scene.tokens ≤ 1
  vacant : scene.engine.phase = .disconnected → scene.tokens = 0
  dialed : ∀ attempt ∈ scene.attempt,
    attempt.generation = scene.engine.generation ∧ scene.engine.attempting = true
  linked : ∀ number ∈ scene.engine.link, ∃ socket : Socket,
    scene.sockets[number]? = some socket ∧ socket.generation = scene.engine.generation
  spare : ∀ (number : Nat) (socket : Socket), scene.sockets[number]? = some socket →
    socket.generation = scene.engine.generation →
      scene.engine.link = some number ∨
        (scene.engine.generation, .connected number) ∈ scene.inbox ∨
        socket.isOpen = false ∧ socket.IsBlank
  /-- Reports of the current generation come behind the report of its socket. -/
  ordered : ∀ before number after,
    scene.inbox = before ++ (scene.engine.generation, .connected number) :: after →
      ∀ entry ∈ before, entry.1 ≠ scene.engine.generation
  /-- Without a socket there are none, but that the attempt failed. -/
  served : ∀ entry ∈ scene.inbox, entry.1 = scene.engine.generation →
    scene.engine.link.isSome ∨
      (∃ number, (scene.engine.generation, .connected number) ∈ scene.inbox) ∨
      ∃ failure, entry.2 = .connectFailed failure
  unattached : ∀ number, (scene.engine.generation, .connected number) ∈ scene.inbox →
    number ∉ attachedIn (effectsIn scene.record)

/-- How attempts, sockets and reports belong to the generations of the engine. -/
structure IsWired (scene : Scene) : Prop where
  older : ∀ (number : Nat) (socket : Socket), scene.sockets[number]? = some socket →
    socket.generation ≤ scene.engine.generation
  mailed : ∀ entry ∈ scene.inbox, entry.1 ≤ scene.engine.generation
  attempted : ∀ attempt ∈ scene.attempt, attempt.generation ≤ scene.engine.generation
  introduced : ∀ generation number, (generation, .connected number) ∈ scene.inbox →
    ∃ socket : Socket, scene.sockets[number]? = some socket ∧ socket.generation = generation
  known : ∀ number ∈ attachedIn (effectsIn scene.record), number < scene.sockets.length
  once : (attachedIn (effectsIn scene.record)).Nodup
  live : scene.engine.life = .running → scene.IsLive

namespace IsWired

variable {scene after : Scene} {now : Time}

/-- What the wiring depends on in the engine. -/
def wiring (engine : Engine) : Client.Life × Client.Phase × Nat × Option Nat × Bool :=
  (engine.life, engine.phase, engine.generation, engine.link, engine.attempting)

/-- Nothing changes but what happened on the sockets, and attempts may be given up. -/
theorem alter (wired : scene.IsWired) (engine : wiring after.engine = wiring scene.engine)
    (inbox : after.inbox = scene.inbox)
    (attempt : ∀ later ∈ after.attempt, ∃ earlier ∈ scene.attempt,
      later.generation = earlier.generation)
    (sockets : Socket.Alters scene.engine.link scene.sockets after.sockets)
    (attached : attachedIn (effectsIn after.record) = attachedIn (effectsIn scene.record)) :
    after.IsWired := by
  simp only [wiring, Prod.mk.injEq] at engine
  obtain ⟨life, phase, generation, link, attempting⟩ := engine
  have fewer : after.tokens ≤ scene.tokens := by
    have attempts : after.attempt.toList.length ≤ scene.attempt.toList.length := by
      cases later : after.attempt with
      | none => exact Nat.zero_le _
      | some other =>
          obtain ⟨earlier, here, -⟩ := attempt other later
          rw [Option.mem_def.mp here]
          exact Nat.le_refl _
    unfold tokens
    rw [inbox, generation, link]
    omega
  constructor
  case older =>
    intro number socket there
    obtain ⟨before, here, same⟩ := sockets.backward there
    rw [same, generation]
    exact wired.older number before here
  case mailed =>
    rw [inbox, generation]
    exact wired.mailed
  case attempted =>
    intro later member
    obtain ⟨earlier, here, same⟩ := attempt later member
    rw [same, generation]
    exact wired.attempted earlier here
  case introduced =>
    rw [inbox]
    intro former number member
    obtain ⟨before, here, same⟩ := wired.introduced former number member
    obtain ⟨socket, there, alike⟩ := sockets.forward here
    exact ⟨socket, there, alike.trans same⟩
  case known =>
    rw [attached, sockets.length]
    exact wired.known
  case once =>
    rw [attached]
    exact wired.once
  case live =>
    rw [life]
    intro running
    have live := wired.live running
    constructor
    case single => exact Nat.le_trans fewer live.single
    case vacant =>
      rw [phase]
      intro disconnected
      exact Nat.le_zero.mp (live.vacant disconnected ▸ fewer)
    case dialed =>
      intro later member
      obtain ⟨earlier, here, same⟩ := attempt later member
      rw [same, generation, attempting]
      exact live.dialed earlier here
    case linked =>
      rw [link, generation]
      intro number member
      obtain ⟨before, here, same⟩ := live.linked number member
      obtain ⟨socket, there, alike⟩ := sockets.forward here
      exact ⟨socket, there, alike.trans same⟩
    case spare =>
      rw [link, generation, inbox]
      intro number socket there current
      obtain ⟨before, here, same⟩ := sockets.backward there
      rcases live.spare number before here (same.symm.trans current) with
        served | connected | ⟨closed, blank⟩
      · exact .inl served
      · exact .inr (.inl connected)
      · by_cases served : scene.engine.link = some number
        · exact .inl served
        · exact .inr (.inr (sockets.blank number before socket here there served closed blank))
    case ordered =>
      rw [inbox, generation]
      exact live.ordered
    case served =>
      rw [inbox, generation, link]
      exact live.served
    case unattached =>
      rw [inbox, generation, attached]
      exact live.unattached

/-- The engine changes in what the wiring does not depend on. -/
theorem withEngine (wired : scene.IsWired) {engine : Engine}
    (same : wiring engine = wiring scene.engine) : (scene.withEngine engine).IsWired :=
  wired.alter same rfl (fun attempt here => ⟨attempt, here, rfl⟩) (.refl _ _) rfl

/-- Notes about anything but sockets that are served now change nothing. -/
theorem note (wired : scene.IsWired) {sights : List Sight} (none : attachedIn (effectsIn sights) = []) :
    (scene.note sights).IsWired := by
  refine wired.alter rfl rfl (fun attempt here => ⟨attempt, here, rfl⟩) (.refl _ _) ?_
  change attachedIn (effectsIn (scene.record ++ sights)) = _
  rw [effectsIn_append, attachedIn_append, none, List.append_nil]

/-- Idle effects close sockets and give attempts up, at most. -/
theorem perform (wired : scene.IsWired) {effect : Effect} (idle : effect.attached? = none)
    (moves : ∀ number write, effect ≠ .handed number write)
    (dials : ∀ generation, effect ≠ .dialed generation) : (scene.perform now effect).IsWired := by
  have attached : attachedIn (effectsIn (scene.perform now effect).record) =
      attachedIn (effectsIn scene.record) := by
    rw [effectsIn_perform, attachedIn_append]
    simp [attachedIn, idle]
  cases effect with
  | handed number write => exact absurd rfl (moves number write)
  | dialed generation => exact absurd rfl (dials generation)
  | attached number => cases idle
  | hungUp => exact wired.alter rfl rfl nofun (.refl _ _) attached
  | closed number =>
      refine wired.alter rfl rfl (fun attempt here => ⟨attempt, here, rfl⟩) ?_ attached
      exact .modify _ _ _ (fun _ _ => rfl) fun _ _ _ _ blank =>
        ⟨rfl, blank.pieces, blank.going, blank.held, blank.waiting⟩
  | _ => exact wired.alter rfl rfl (fun attempt here => ⟨attempt, here, rfl⟩) (.refl _ _) attached

theorem performAll (wired : scene.IsWired) {effects : List Effect}
    (harmless : ∀ effect ∈ effects, effect.attached? = none ∧
      (∀ number write, effect ≠ .handed number write) ∧
      ∀ generation, effect ≠ .dialed generation) : (scene.performAll now effects).IsWired := by
  induction effects generalizing scene with
  | nil => exact wired
  | cons effect rest ih =>
      obtain ⟨idle, moves, dials⟩ := harmless effect List.mem_cons_self
      exact ih (wired.perform idle moves dials) fun other member =>
        harmless other (List.mem_cons_of_mem effect member)

/-- An engine that has ended has nothing but the past to answer for. -/
theorem finish (wired : scene.IsWired) {engine : Engine}
    (generation : scene.engine.generation ≤ engine.generation) (ceased : engine.life ≠ .running) :
    (scene.withEngine engine).IsWired where
  older number socket there := Nat.le_trans (wired.older number socket there) generation
  mailed entry member := Nat.le_trans (wired.mailed entry member) generation
  attempted attempt here := Nat.le_trans (wired.attempted attempt here) generation
  introduced := wired.introduced
  known := wired.known
  once := wired.once
  live running := absurd running ceased

/-- A new generation begins with nothing of its own. -/
theorem renew (wired : scene.IsWired) {engine : Engine} (idle : scene.attempt = none)
    (generation : engine.generation = scene.engine.generation + 1) (link : engine.link = none) :
    (scene.withEngine engine).IsWired := by
  have newer : scene.engine.generation < engine.generation := generation ▸ Nat.lt_succ_self _
  have former (entry : Nat × Report) (member : entry ∈ scene.inbox) :
      entry.1 ≠ engine.generation :=
    Nat.ne_of_lt (Nat.lt_of_le_of_lt (wired.mailed entry member) newer)
  have unmentioned (report : Report) : (engine.generation, report) ∉ scene.inbox :=
    fun member => former _ member rfl
  have empty : (scene.withEngine engine).tokens = 0 := by
    have none : scene.inbox.countP (isVerdict engine.generation) = 0 := by
      rw [List.countP_eq_zero]
      intro entry member verdict
      exact former entry member (isVerdict_iff.mp verdict).1
    change scene.attempt.toList.length + scene.inbox.countP (isVerdict engine.generation) +
      engine.link.toList.length = 0
    rw [idle, none, link]
    rfl
  constructor
  case older =>
    intro number socket there
    exact Nat.le_of_lt (Nat.lt_of_le_of_lt (wired.older number socket there) newer)
  case mailed =>
    intro entry member
    exact Nat.le_of_lt (Nat.lt_of_le_of_lt (wired.mailed entry member) newer)
  case attempted =>
    change ∀ attempt ∈ scene.attempt, _
    rw [idle]
    exact nofun
  case introduced => exact wired.introduced
  case known => exact wired.known
  case once => exact wired.once
  case live =>
    intro _
    constructor
    case single => exact empty ▸ Nat.zero_le 1
    case vacant => exact fun _ => empty
    case dialed =>
      change ∀ attempt ∈ scene.attempt, _
      rw [idle]
      exact nofun
    case linked =>
      change ∀ number ∈ engine.link, _
      rw [link]
      exact nofun
    case spare =>
      intro number socket there current
      have old := wired.older number socket there
      exact absurd current (Nat.ne_of_lt (Nat.lt_of_le_of_lt old newer))
    case ordered =>
      intro before number after split
      change scene.inbox = _ at split
      exact absurd (split ▸ List.mem_append_right _ List.mem_cons_self) (unmentioned _)
    case served =>
      intro entry member current
      exact absurd current (former entry member)
    case unattached =>
      intro number member
      exact absurd member (unmentioned _)

end IsWired

theorem tokens_eq_zero_iff {scene : Scene} :
    scene.tokens = 0 ↔ scene.attempt = none ∧ scene.engine.link = none ∧
      ∀ entry ∈ scene.inbox, ¬isVerdict scene.engine.generation entry = true := by
  have length {Item : Type} (item : Option Item) : item.toList.length = 0 ↔ item = none := by
    cases item <;> simp
  unfold tokens
  rw [Nat.add_eq_zero_iff, Nat.add_eq_zero_iff, length, length, List.countP_eq_zero]
  constructor
  · rintro ⟨⟨attempt, verdicts⟩, link⟩
    exact ⟨attempt, link, verdicts⟩
  · rintro ⟨attempt, link, verdicts⟩
    exact ⟨⟨attempt, verdicts⟩, link⟩

/-- An attempt and the report of how it ended count the same. -/
theorem tokens_of_concluded {scene after : Scene} {attempt : Attempt} {entry : Nat × Report}
    (here : scene.attempt = some attempt)
    (verdict : isVerdict scene.engine.generation entry = true) (engine : after.engine = scene.engine)
    (gone : after.attempt = none) (inbox : after.inbox = scene.inbox ++ [entry]) :
    after.tokens = scene.tokens := by
  unfold tokens
  rw [engine, gone, inbox, here, List.countP_append, List.countP_singleton, if_pos verdict,
    Option.toList_none, Option.toList_some, List.length_nil, List.length_singleton]
  omega

namespace IsLive

variable {scene : Scene}

/-- While an attempt is under way, nothing is served and nothing is reported. -/
theorem of_attempt (live : scene.IsLive) {attempt : Attempt}
    (here : scene.attempt = some attempt) :
    scene.engine.link = none ∧ ∀ entry ∈ scene.inbox, entry.1 ≠ scene.engine.generation := by
  have rest : ({ scene with attempt := none } : Scene).tokens = 0 := by
    have single := live.single
    unfold tokens at single ⊢
    rw [here] at single
    simp only [Option.toList_some, List.length_singleton] at single
    simp only [Option.toList_none, List.length_nil]
    omega
  obtain ⟨-, link, verdicts⟩ := tokens_eq_zero_iff.mp rest
  refine ⟨link, fun entry member current => ?_⟩
  rcases live.served entry member current with linked | ⟨number, connected⟩ | ⟨failure, failed⟩
  · rw [show scene.engine.link = none from link] at linked
    cases linked
  · exact verdicts _ connected (isVerdict_iff.mpr ⟨rfl, rfl⟩)
  · refine verdicts entry member (isVerdict_iff.mpr ⟨current, ?_⟩)
    rw [failed]
    rfl

/-- When the end of an attempt is reported, nothing else is under way. -/
theorem of_verdict (live : scene.IsLive) {entry : Nat × Report} {rest : List (Nat × Report)}
    (first : scene.inbox = entry :: rest)
    (verdict : isVerdict scene.engine.generation entry = true) :
    (scene.withInbox rest).tokens = 0 := by
  have single := live.single
  unfold tokens at single ⊢
  rw [first, List.countP_cons_of_pos verdict] at single
  change scene.attempt.toList.length + rest.countP (isVerdict scene.engine.generation) +
    scene.engine.link.toList.length = 0
  omega

/-- Wherever in the inbox the end of an attempt is reported, there is neither an attempt nor a
socket that is served. -/
theorem of_reported (live : scene.IsLive) {entry : Nat × Report} (member : entry ∈ scene.inbox)
    (verdict : isVerdict scene.engine.generation entry = true) :
    scene.attempt = none ∧ scene.engine.link = none := by
  have counted : 0 < scene.inbox.countP (isVerdict scene.engine.generation) :=
    List.countP_pos_iff.mpr ⟨entry, member, verdict⟩
  have single := live.single
  unfold tokens at single
  constructor
  · cases attempt : scene.attempt with
    | none => rfl
    | some attempt =>
        rw [attempt, Option.toList_some, List.length_singleton] at single
        omega
  · cases link : scene.engine.link with
    | none => rfl
    | some socket =>
        rw [link, Option.toList_some, List.length_singleton] at single
        omega

end IsLive

namespace IsWired

variable {scene after : Scene} {now : Time}

/-- The engine takes a report that does not bring a socket. -/
theorem pop (wired : scene.IsWired) {entry : Nat × Report} {rest : List (Nat × Report)}
    (first : scene.inbox = entry :: rest)
    (other : ∀ number, entry ≠ (scene.engine.generation, .connected number)) :
    (scene.withInbox rest).IsWired := by
  have earlier {item : Nat × Report} (member : item ∈ rest) : item ∈ scene.inbox := by
    rw [first]
    exact List.mem_cons_of_mem entry member
  have later {number : Nat} (member : (scene.engine.generation, Report.connected number) ∈ scene.inbox) :
      (scene.engine.generation, Report.connected number) ∈ rest := by
    rw [first] at member
    rcases List.mem_cons.mp member with same | behind
    · exact absurd same.symm (other number)
    · exact behind
  have fewer : (scene.withInbox rest).tokens ≤ scene.tokens := by
    have counted : rest.countP (isVerdict scene.engine.generation) ≤
        scene.inbox.countP (isVerdict scene.engine.generation) := by
      rw [first]
      exact (List.sublist_cons_self entry rest).countP_le
    exact Nat.add_le_add_right (Nat.add_le_add_left counted _) _
  constructor
  case older => exact wired.older
  case mailed => exact fun item member => wired.mailed item (earlier member)
  case attempted => exact wired.attempted
  case introduced =>
    intro generation number member
    exact wired.introduced generation number (earlier member)
  case known => exact wired.known
  case once => exact wired.once
  case live =>
    intro running
    have live := wired.live running
    constructor
    case single => exact Nat.le_trans fewer live.single
    case vacant =>
      intro disconnected
      exact Nat.le_zero.mp (live.vacant disconnected ▸ fewer)
    case dialed => exact live.dialed
    case linked => exact live.linked
    case spare =>
      intro number socket there current
      exact (live.spare number socket there current).imp_right (Or.imp_left later)
    case ordered =>
      intro before number after split item member
      have whole : scene.inbox =
          (entry :: before) ++ (scene.engine.generation, .connected number) :: after := by
        rw [first]
        exact congrArg (entry :: ·) split
      exact live.ordered (entry :: before) number after whole item (List.mem_cons_of_mem entry member)
    case served =>
      intro item member current
      apply (live.served item (earlier member) current).imp_right
      apply Or.imp_left
      rintro ⟨number, connected⟩
      exact ⟨number, later connected⟩
    case unattached => exact fun number member => live.unattached number (earlier member)

/-- A task reports what does not end an attempt, for the socket that is served. -/
theorem mail (wired : scene.IsWired) {generation : Nat} {reports : List Report}
    (older : generation ≤ scene.engine.generation)
    (plain : ∀ report ∈ reports, (∀ number, report ≠ .connected number) ∧
      ∀ failure, report ≠ .connectFailed failure)
    (served : reports ≠ [] → scene.engine.life = .running → generation = scene.engine.generation →
      scene.engine.link.isSome ∨
        ∃ number, (scene.engine.generation, .connected number) ∈ scene.inbox) :
    (scene.mail generation reports).IsWired := by
  unfold Scene.mail
  split
  · next running =>
      let sent := reports.map fun report => (generation, report)
      have live := wired.live running
      have sentPlain {former number : Nat} (member : (former, Report.connected number) ∈ sent) : False := by
        obtain ⟨report, here, same⟩ := List.mem_map.mp member
        cases same
        exact (plain _ here).1 number rfl
      have noVerdict : sent.countP (isVerdict scene.engine.generation) = 0 := by
        rw [List.countP_eq_zero]
        intro item member verdict
        obtain ⟨report, here, rfl⟩ := List.mem_map.mp member
        obtain ⟨notConnected, notFailed⟩ := plain report here
        cases report with
        | connected number => exact notConnected number rfl
        | connectFailed failure => exact notFailed failure rfl
        | _ => exact nomatch (isVerdict_iff.mp verdict).2
      have tokens : ({ scene with inbox := scene.inbox ++ sent } : Scene).tokens = scene.tokens := by
        unfold Scene.tokens
        dsimp only
        rw [List.countP_append, noVerdict, Nat.add_zero]
      constructor
      case older => exact wired.older
      case mailed =>
        intro item member
        rcases List.mem_append.mp member with old | new
        · exact wired.mailed item old
        · obtain ⟨report, -, rfl⟩ := List.mem_map.mp new
          exact older
      case attempted => exact wired.attempted
      case introduced =>
        intro former number member
        rcases List.mem_append.mp member with old | new
        · exact wired.introduced former number old
        · exact (sentPlain new).elim
      case known => exact wired.known
      case once => exact wired.once
      case live =>
        intro _
        constructor
        case single => exact tokens ▸ live.single
        case vacant => exact fun disconnected => tokens ▸ live.vacant disconnected
        case dialed => exact live.dialed
        case linked => exact live.linked
        case spare =>
          intro number socket there current
          apply (live.spare number socket there current).imp_right
          exact Or.imp_left (List.mem_append_left sent ·)
        case ordered =>
          intro before number after split item member
          change scene.inbox ++ sent = _ at split
          rcases List.append_eq_append_iff.mp split with ⟨late, -, among⟩ | ⟨late, early, among⟩
          · exact (sentPlain (among ▸ List.mem_append_right late List.mem_cons_self)).elim
          · cases late with
            | nil => exact (sentPlain (among ▸ List.mem_cons_self)).elim
            | cons item' late =>
                cases among
                exact live.ordered before number late early item member
        case served =>
          intro item member current
          rcases List.mem_append.mp member with old | new
          · apply (live.served item old current).imp_right
            apply Or.imp_left
            rintro ⟨number, connected⟩
            exact ⟨number, List.mem_append_left sent connected⟩
          · obtain ⟨report, here, rfl⟩ := List.mem_map.mp new
            rcases served (List.ne_nil_of_mem here) running current with linked | ⟨number, connected⟩
            · exact .inl linked
            · exact .inr (.inl ⟨number, List.mem_append_left sent connected⟩)
        case unattached =>
          intro number member
          rcases List.mem_append.mp member with old | new
          · exact live.unattached number old
          · exact (sentPlain new).elim
  · exact wired

/-- With nothing under way, an attempt may begin. -/
theorem dial (wired : scene.IsWired) (empty : scene.tokens = 0) {engine : Engine}
    (life : engine.life = scene.engine.life) (phase : engine.phase = .connecting)
    (generation : engine.generation = scene.engine.generation)
    (link : engine.link = scene.engine.link) (attempting : engine.attempting = true) :
    ({ scene with
        engine := engine
        attempt := some ⟨engine.generation, .unstarted⟩ } : Scene).IsWired := by
  obtain ⟨-, unlinked, verdicts⟩ := tokens_eq_zero_iff.mp empty
  have single : ({ scene with
      engine := engine
      attempt := some ⟨engine.generation, .unstarted⟩ } : Scene).tokens = 1 := by
    unfold Scene.tokens at empty ⊢
    dsimp only
    rw [generation, link]
    simp only [Option.toList_some, List.length_singleton]
    omega
  constructor
  case older =>
    rw [generation]
    exact wired.older
  case mailed =>
    rw [generation]
    exact wired.mailed
  case attempted =>
    rintro attempt ⟨⟩
    exact Nat.le_refl _
  case introduced => exact wired.introduced
  case known => exact wired.known
  case once => exact wired.once
  case live =>
    intro running
    have live := wired.live (life.symm.trans running)
    constructor
    case single => exact Nat.le_of_eq single
    case vacant => exact fun disconnected => nomatch phase.symm.trans disconnected
    case dialed =>
      rintro attempt ⟨⟩
      exact ⟨rfl, attempting⟩
    case linked =>
      rw [link, unlinked]
      exact nofun
    case spare =>
      rw [link, generation]
      exact live.spare
    case ordered =>
      rw [generation]
      exact live.ordered
    case served =>
      rw [link, generation]
      exact live.served
    case unattached =>
      rw [generation]
      exact live.unattached

/-- The engine takes the report that brings a socket. -/
theorem attach (wired : scene.IsWired) (running : scene.engine.life = .running) {number : Nat}
    {rest : List (Nat × Report)}
    (first : scene.inbox = (scene.engine.generation, .connected number) :: rest) {engine : Engine}
    (phase : engine.phase = .connected) (generation : engine.generation = scene.engine.generation)
    (link : engine.link = some number) {record : List Sight}
    (attached : attachedIn (effectsIn record) = attachedIn (effectsIn scene.record) ++ [number]) :
    ({ scene with engine, inbox := rest, record } : Scene).IsWired := by
  have live := wired.live running
  have verdict : isVerdict scene.engine.generation (scene.engine.generation, .connected number) =
      true := isVerdict_iff.mpr ⟨rfl, rfl⟩
  have empty := live.of_verdict first verdict
  obtain ⟨idle, unlinked, verdicts⟩ := tokens_eq_zero_iff.mp empty
  have here : (scene.engine.generation, Report.connected number) ∈ scene.inbox := by
    rw [first]
    exact List.mem_cons_self
  have earlier {item : Nat × Report} (member : item ∈ rest) : item ∈ scene.inbox := by
    rw [first]
    exact List.mem_cons_of_mem _ member
  have noMore (other : Nat) : (scene.engine.generation, Report.connected other) ∉ rest := by
    intro member
    exact verdicts _ member (isVerdict_iff.mpr ⟨rfl, rfl⟩)
  obtain ⟨socket, there, current⟩ := wired.introduced _ _ here
  constructor
  case older =>
    rw [generation]
    exact wired.older
  case mailed =>
    rw [generation]
    exact fun item member => wired.mailed item (earlier member)
  case attempted =>
    rw [generation]
    exact wired.attempted
  case introduced => exact fun former other member => wired.introduced former other (earlier member)
  case known =>
    change ∀ other ∈ attachedIn (effectsIn record), other < scene.sockets.length
    rw [attached]
    intro other member
    rcases List.mem_append.mp member with old | new
    · exact wired.known other old
    · rw [List.mem_singleton.mp new]
      exact (List.getElem?_eq_some_iff.mp there).1
  case once =>
    change (attachedIn (effectsIn record)).Nodup
    rw [attached]
    refine List.nodup_append.mpr ⟨wired.once, List.pairwise_singleton _ _, ?_⟩
    rintro other old last single rfl
    exact live.unattached number here (List.mem_singleton.mp single ▸ old)
  case live =>
    intro _
    constructor
    case single =>
      change scene.attempt.toList.length + rest.countP (isVerdict engine.generation) +
        engine.link.toList.length ≤ 1
      have none_left : scene.attempt.toList.length +
          rest.countP (isVerdict scene.engine.generation) + scene.engine.link.toList.length = 0 := empty
      rw [generation, link]
      simp only [Option.toList_some, List.length_singleton]
      omega
    case vacant => exact fun disconnected => nomatch phase.symm.trans disconnected
    case dialed =>
      change ∀ attempt ∈ scene.attempt, _
      rw [show scene.attempt = none from idle]
      exact nofun
    case linked =>
      intro other linked
      cases link.symm.trans linked
      exact ⟨socket, there, current.trans generation.symm⟩
    case spare =>
      rw [generation, link]
      intro other socket present now
      rcases live.spare other socket present now with linked | connected | blank
      · exact nomatch (show scene.engine.link = none from unlinked).symm.trans linked
      · rw [first] at connected
        rcases List.mem_cons.mp connected with same | behind
        · cases same
          exact .inl rfl
        · exact absurd behind (noMore other)
      · exact .inr (.inr blank)
    case ordered =>
      rw [generation]
      intro before other after split
      change rest = _ at split
      exact absurd (split ▸ List.mem_append_right _ List.mem_cons_self) (noMore other)
    case served =>
      intro item member current
      rw [link]
      exact .inl rfl
    case unattached =>
      rw [generation]
      intro other member
      exact absurd member (noMore other)

/-- A buffer goes to the socket that is served. -/
theorem hand (wired : scene.IsWired) {number : Nat} (linked : scene.engine.link = some number)
    (write : Client.QueuedWrite) : (scene.perform now (.handed number write)).IsWired := by
  have attached : attachedIn (effectsIn (scene.perform now (.handed number write)).record) =
      attachedIn (effectsIn scene.record) := by
    rw [effectsIn_perform, attachedIn_append]
    exact List.append_nil _
  refine wired.alter rfl rfl (fun attempt here => ⟨attempt, here, rfl⟩) ?_ attached
  exact .modify _ _ _ (fun _ _ => rfl) fun unserved => absurd linked unserved

/-- Another socket is there, of which an attempt has to answer for. -/
theorem push (wired : scene.IsWired) {attempt : Attempt} (here : scene.attempt = some attempt)
    {socket : Socket} (generation : socket.generation = attempt.generation) :
    (∀ (number : Nat) (other : Socket), (scene.sockets ++ [socket])[number]? = some other →
      other.generation ≤ scene.engine.generation) ∧
    (∀ generation number, (generation, .connected number) ∈ scene.inbox →
      ∃ other : Socket, (scene.sockets ++ [socket])[number]? = some other ∧
        other.generation = generation) ∧
    (∀ number ∈ attachedIn (effectsIn scene.record),
      number < (scene.sockets ++ [socket]).length) := by
  refine ⟨?_, ?_, ?_⟩
  · intro number other there
    rcases of_push there with old | ⟨-, rfl⟩
    · exact wired.older number other old
    · rw [generation]
      exact wired.attempted attempt here
  · intro former number member
    obtain ⟨other, there, same⟩ := wired.introduced former number member
    refine ⟨other, ?_, same⟩
    rw [List.getElem?_append_left (List.getElem?_eq_some_iff.mp there).1]
    exact there
  · intro number member
    rw [List.length_append]
    exact Nat.lt_add_right _ (wired.known number member)

theorem accept (wired : scene.IsWired) (running : scene.engine.life = .running) {attempt : Attempt}
    (here : scene.attempt = some attempt) {socket : Socket}
    (generation : socket.generation = attempt.generation) :
    ({ scene with
        attempt := none
        sockets := scene.sockets ++ [socket]
        inbox := scene.inbox ++ [(attempt.generation, .connected scene.sockets.length)] } :
      Scene).IsWired := by
  have live := wired.live running
  obtain ⟨unlinked, silent⟩ := live.of_attempt here
  obtain ⟨current, attempting⟩ := live.dialed attempt here
  obtain ⟨older, introduced, known⟩ := wired.push here generation
  have last : (scene.sockets ++ [socket])[scene.sockets.length]? = some socket :=
    List.getElem?_concat_length
  have isLast {number : Nat} (member : (scene.engine.generation, Report.connected number) ∈
      scene.inbox ++ [(attempt.generation, .connected scene.sockets.length)]) :
      number = scene.sockets.length := by
    rcases List.mem_append.mp member with old | new
    · exact absurd rfl (silent _ old)
    · rw [List.mem_singleton, Prod.mk.injEq, Report.connected.injEq] at new
      exact new.2
  constructor
  case older => exact older
  case mailed =>
    intro item member
    rcases List.mem_append.mp member with old | new
    · exact wired.mailed item old
    · rw [List.mem_singleton.mp new]
      exact wired.attempted attempt here
  case attempted => exact nofun
  case introduced =>
    intro former number member
    rcases List.mem_append.mp member with old | new
    · exact introduced former number old
    · cases List.mem_singleton.mp new
      exact ⟨socket, last, generation⟩
  case known => exact known
  case once => exact wired.once
  case live =>
    intro _
    have verdict : isVerdict scene.engine.generation
        (attempt.generation, .connected scene.sockets.length) = true :=
      isVerdict_iff.mpr ⟨current, rfl⟩
    have tokens : ({ scene with
        attempt := none
        sockets := scene.sockets ++ [socket]
        inbox := scene.inbox ++ [(attempt.generation, .connected scene.sockets.length)] } :
          Scene).tokens = scene.tokens :=
      tokens_of_concluded here verdict rfl rfl rfl
    constructor
    case single => exact tokens ▸ live.single
    case vacant => exact fun disconnected => tokens ▸ live.vacant disconnected
    case dialed => exact nofun
    case linked =>
      change ∀ number ∈ scene.engine.link, _
      rw [show scene.engine.link = none from unlinked]
      exact nofun
    case spare =>
      intro number other there now
      rcases of_push there with old | ⟨rfl, rfl⟩
      · exact (live.spare number other old now).imp_right (Or.imp_left (List.mem_append_left _ ·))
      · refine .inr (.inl (List.mem_append_right _ ?_))
        rw [current]
        exact List.mem_cons_self
    case ordered =>
      intro before number after split item member
      change scene.inbox ++ [(attempt.generation, .connected scene.sockets.length)] = _ at split
      apply silent item
      rcases List.append_eq_append_iff.mp split with ⟨late, whole, among⟩ | ⟨late, whole, -⟩
      · cases late with
        | nil => exact (whole.trans (List.append_nil _)) ▸ member
        | cons _ _ => simp at among
      · exact whole ▸ List.mem_append_left late member
    case served =>
      intro item member now
      refine .inr (.inl ⟨scene.sockets.length, List.mem_append_right _ ?_⟩)
      rw [current]
      exact List.mem_cons_self
    case unattached =>
      intro number member attached
      rw [isLast member] at attached
      exact Nat.lt_irrefl _ (wired.known _ attached)

theorem reject (wired : scene.IsWired) {attempt : Attempt} {left : Option Attempt}
    (here : scene.attempt = some attempt)
    (later : ∀ other ∈ left, other.generation = attempt.generation) {socket : Socket}
    (generation : socket.generation = attempt.generation) (closed : socket.isOpen = false)
    (blank : socket.IsBlank) :
    ({ scene with attempt := left, sockets := scene.sockets ++ [socket] } : Scene).IsWired := by
  obtain ⟨older, introduced, known⟩ := wired.push here generation
  constructor
  case older => exact older
  case mailed => exact wired.mailed
  case attempted =>
    intro other member
    rw [later other member]
    exact wired.attempted attempt here
  case introduced => exact introduced
  case known => exact known
  case once => exact wired.once
  case live =>
    intro running
    have live := wired.live running
    have fewer : ({ scene with attempt := left, sockets := scene.sockets ++ [socket] } : Scene).tokens ≤
        scene.tokens := by
      have attempts : left.toList.length ≤ scene.attempt.toList.length := by
        rw [here]
        cases left with
        | none => exact Nat.zero_le _
        | some other => exact Nat.le_refl _
      exact Nat.add_le_add_right (Nat.add_le_add_right attempts _) _
    constructor
    case single => exact Nat.le_trans fewer live.single
    case vacant =>
      intro disconnected
      exact Nat.le_zero.mp (live.vacant disconnected ▸ fewer)
    case dialed =>
      intro other member
      rw [later other member]
      exact live.dialed attempt here
    case linked =>
      intro number member
      obtain ⟨other, there, same⟩ := live.linked number member
      refine ⟨other, ?_, same⟩
      change (scene.sockets ++ [socket])[number]? = some other
      rw [List.getElem?_append_left (List.getElem?_eq_some_iff.mp there).1]
      exact there
    case ordered => exact live.ordered
    case served => exact live.served
    case unattached => exact live.unattached
    case spare =>
      intro number other there now
      rcases of_push there with old | ⟨-, rfl⟩
      · exact live.spare number other old now
      · exact .inr (.inr ⟨closed, blank⟩)

end IsWired

end Scene

end RequestMux.Network
