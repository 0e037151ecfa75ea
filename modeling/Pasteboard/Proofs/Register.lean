import Pasteboard.Application
import Pasteboard.Board
import Pasteboard.Proofs.HostClipboard
import Pasteboard.Proofs.Saving

/-!
# A board is a register

A board in memory is a clipboard whose hooks are known, so what it replies can be written down
(`Board.answer`), and a command of any container that has the board replies just that
(`Command.start_answer_on_board`): a transfer on a part of a state goes as it would on that part
alone (`Clipboard.course_within`).

Any number of containers may share one board, and it is asked through any of them. In between their
settings are saved and reset, with success or not, the board gets other reasons to refuse, and the
host changes. One such move preserves that the board holds what was copied last and that its handles
have been released (`Board.Move.Holds.perform`); so do any number of them, and what is read at any
time follows (`Board.is_register`).
-/

namespace Pasteboard

variable {β σ τ : Type}

/-! ### Transfers on a part of a state -/

/-- The course with another state at its end. -/
def Course.map (f : σ → τ) : Course σ → Course τ
  | unreached g s => unreached g (f s)
  | stale s => stale (f s)
  | served result release s => served result release (f s)

theorem Course.outcome_map (f : σ → τ) (op : Operation) (c : Course σ) :
    (c.map f).outcome op = c.outcome op := by
  rcases c with _ | _ | ⟨_, _ | _, _⟩ <;> rfl

theorem Course.state_map (f : σ → τ) (c : Course σ) : (c.map f).state = f c.state := by
  cases c <;> rfl

section Within

variable {get : σ → τ} {set : τ → σ → σ}

theorem Request.start_hook_within (r : Request) (hooks : Hooks τ) (s : σ) :
    (r.hook (hooks.within get set)).start s =
      (((r.hook hooks).start (get s)).1, set ((r.hook hooks).start (get s)).2 s) := by
  cases r with
  | read => rfl
  | copy t =>
    simp only [hook, Hooks.within, Action.start_bind, Action.start_within]
    rcases (hooks.set (.text t)).start (get s) with ⟨_ | _, _⟩ <;> rfl

/-- A transfer on a part of a state takes the course that it takes on that part alone. -/
theorem Clipboard.course_within (hget : ∀ t s, get (set t s) = t)
    (hset : ∀ t u s, set u (set t s) = set u s) (p : Clipboard τ) (r : Request) (s : σ) :
    (p.within get set).course r s = (p.course r (get s)).map (set · s) := by
  rw [course, course, within, Action.start_map, Action.start_within]
  rcases p.acquire.start (get s) with ⟨f | h, t⟩
  · rfl
  · simp only [Except.map, Handle.within, Request.start_hook_within, hget, hset]
    cases h.closed with
    | true => rfl
    | false =>
      simp only [Hooks.within, Action.start_within, hget, hset]
      rfl

end Within

namespace Board

/-! ### What a board answers -/

/-- The board after a handle of it was used. -/
def visited (board : Board) : Board :=
  { board with opened := board.opened + 1, released := board.released + 1 }

/-- The reply to reading a text, or none. -/
def reading : Option Text → Reply
  | some t => ⟨true, some t, none⟩
  | none => ⟨false, none, some "Failed to read from clipboard: clipboard contains no text"⟩

/-- What a board replies to a request, and the board after it. -/
def answer (board : Board) (r : Request) : Except Failure Reply × Board :=
  if board.unavailable = [] then
    match r with
    | .copy t =>
      if board.rejectWrites = [] then
        (.ok ⟨true, none, none⟩, { board.visited with text := .text t })
      else
        (.ok ⟨false, none, some ((Blame.doing .copy).lead ++ board.rejectWrites)⟩, board.visited)
    | .read =>
      (match board.text with
        | .null => .ok (reading none)
        | v => Reply.success .text v, board.visited)
  else (.ok ⟨false, none, some (Blame.reaching.lead ++ board.unavailable)⟩, board)

theorem start_get (board : Board) :
    hooks.get.start board = (match board.text with
      | .null => .error (.operation .read "clipboard contains no text")
      | v => .ok v, board) := by
  rw [hooks, get, Action.start_bind, Action.start_ask]
  rcases board.text <;> rfl

theorem start_set (board : Board) (v : Value) :
    (hooks.set v).start board =
      if board.rejectWrites = [] then (.ok (), { board with text := v })
      else (.error (.operation .copy board.rejectWrites), board) := by
  simp only [hooks, set, Action.start_bind, Action.start_ask, List.isEmpty_iff]
  split <;> rfl

theorem start_acquire (board : Board) :
    clipboard.acquire.start board =
      if board.unavailable = [] then (.ok { hooks }, { board with opened := board.opened + 1 })
      else (.error (.init board.unavailable), board) := by
  simp only [clipboard, Action.start_bind, Action.start_ask, List.isEmpty_iff]
  split <;> rfl

/-- Reading a board without a text blames the reading. -/
theorem verdict_of_no_text :
    Command.verdict .read (.error (.operation .read "clipboard contains no text")) =
      .ok (reading none) := by
  rfl

/-- The answer of a board is the verdict on a transfer with it. -/
theorem answer_eq (board : Board) (r : Request) :
    board.answer r = (Command.verdict r.operation ((clipboard.course r board).outcome r.operation),
      (clipboard.course r board).state) := by
  rw [Clipboard.course, start_acquire]
  unfold answer
  split
  · cases r with
    | copy t =>
      simp only [Request.hook, Action.start_bind, start_set]
      split
      · exact congrArg (·, { board.visited with text := .text t }) Reply.success_null.symm
      · have h := Command.verdict_failure .copy (.doing .copy) board.rejectWrites
        exact congrArg (·, board.visited) h.symm
    | read =>
      simp only [Request.hook, start_get]
      -- the hook and the answer tell apart whether there is a text, and nothing else
      obtain ⟨text, -, -, -, -⟩ := board
      cases text with
      | null => exact congrArg (·, visited _) verdict_of_no_text.symm
      | _ => rfl
  · exact congrArg (·, board) (Command.verdict_failure r.operation .reaching _).symm

end Board

/-! ### Applications on a board -/

/-- A command of a container with the board answers as the board does, and does nothing else to
it. -/
theorem Command.start_answer_on_board {c : Container Board}
    (hc : c.adapter = .injected (Host.inMemory Board.clipboard)) (r : Request) (host : Host Board) :
    ((Command.answer c r).start host).1 = (host.memory.answer r).1 ∧
      ((Command.answer c r).start host).2.memory = (host.memory.answer r).2 := by
  have hcourse : (Host.inMemory Board.clipboard).course r host =
      (Board.clipboard.course r host.memory).map fun memory => { host with memory } := by
    refine Clipboard.course_within ?_ ?_ Board.clipboard r host
    · exact fun _ _ => rfl
    · exact fun _ _ _ => rfl
  obtain ⟨notices, hstate⟩ := Command.snd_start_answer c r host
  have hclipboard : c.clipboard = Host.inMemory Board.clipboard := by
    rw [Container.clipboard, hc]
  rw [Command.fst_start_answer hc, hstate, hclipboard, hcourse, Course.outcome_map,
    Course.state_map, Board.answer_eq]
  exact ⟨rfl, rfl⟩

/-- The board in memory was brought along for the container, and it is the clipboard of it. -/
structure Container.HasBoard (c : Container Board) : Prop where
  adapter : c.adapter = .injected (Host.inMemory Board.clipboard)
  injected : c.injected = some (Host.inMemory Board.clipboard)

/-- A board always counts as true, so new settings leave it where it is. -/
theorem Container.HasBoard.withSettings {c : Container Board} (h : c.HasBoard) (r : SettingsRecord)
    (host : Host Board) : (c.withSettings r host).HasBoard :=
  ⟨congrArg (adapterFor · r host) h.injected, h.injected⟩

namespace Application

/-- The command of the container with a number. -/
def answer (number : Nat) : Request → Action (Application β) Reply
  | .copy t => copy (some number) (.text t)
  | .read => read (some number)

theorem start_answer {app : Application β} {number : Nat} {c : Container β}
    (hc : app.containers[number]? = some c) (r : Request) :
    (answer number r).start app =
      (((Command.answer c r).start app.host).1,
        { app with host := ((Command.answer c r).start app.host).2 }) := by
  cases r with
  | copy t =>
    simp only [answer, copy, containerOrShared, container, Action.start_bind, Action.start_ask, hc,
      Action.start_pure]
    rfl
  | read =>
    simp only [answer, read, containerOrShared, container, Action.start_bind, Action.start_ask, hc,
      Action.start_pure]
    rfl

/-- The application has as many containers as there are numbers, all of them with the board in
memory. -/
structure OnBoard (n : Nat) (app : Application Board) : Prop where
  length : app.containers.length = n
  board : ∀ c ∈ app.containers, c.HasBoard

variable {n : Nat} {app : Application Board}

theorem OnBoard.exists_container (h : app.OnBoard n) (number : Fin n) :
    ∃ c, app.containers[number.val]? = some c ∧ c.HasBoard := by
  have hlt : number.val < app.containers.length := h.length.symm ▸ number.isLt
  exact ⟨_, List.getElem?_eq_getElem hlt, h.board _ (List.getElem_mem hlt)⟩

/-- What goes on around the containers does not matter. -/
theorem OnBoard.of_containers (h : app.OnBoard n) {app' : Application Board}
    (hc : app'.containers = app.containers) : app'.OnBoard n :=
  ⟨hc ▸ h.length, hc ▸ h.board⟩

theorem OnBoard.set (h : app.OnBoard n) (number : Nat) {c : Container Board}
    (hc : c.HasBoard) {host : Host Board} :
    OnBoard n { app with host, containers := app.containers.set number c } := by
  refine ⟨List.length_set.trans h.length, fun d hd => ?_⟩
  rcases List.mem_or_eq_of_mem_set hd with hd | rfl
  · exact h.board d hd
  · exact hc

/-- A change of settings leaves the board as it is, and all containers on it. -/
theorem OnBoard.change (h : app.OnBoard n) (number : Fin n) (what : Change) :
    ((Application.change number what).start app).2.host.memory = app.host.memory ∧
      ((Application.change number what).start app).2.OnBoard n := by
  obtain ⟨c, hnumber, hc⟩ := h.exists_container number
  rw [start_change hnumber]
  rcases c.change_cases what app.host with ⟨f, disk, hf, -⟩ | ⟨r, disk, notices, -, hok⟩
  · rw [hf]
    exact ⟨rfl, h.of_containers rfl⟩
  · rw [hok]
    dsimp only
    exact ⟨by rw [Host.told_eq], h.set number (hc.withSettings r _)⟩

end Application

namespace Board

/-! ### Moves -/

/-- What is done to a board: a request, or a change of the reasons to refuse. -/
inductive Demand
  | request (r : Request)
  | restriction (unavailable rejectWrites : Text)

/-- How a board meets a demand; only a request gets a reply. -/
def meet (board : Board) : Demand → Option (Except Failure Reply) × Board
  | .request r => (some (board.answer r).1, (board.answer r).2)
  | .restriction unavailable rejectWrites => (none, { board with unavailable, rejectWrites })

/-- What happens around a board that is shared by `n` containers. -/
inductive Move (n : Nat)
  /-- A container is told to copy or to read. -/
  | ask (number : Fin n) (r : Request)
  /-- The settings of a container are saved or reset. -/
  | change (number : Fin n) (what : Change)
  /-- The board gets other reasons to refuse. -/
  | restrict (unavailable rejectWrites : Text)
  /-- The host becomes another one, with the same board in its memory. -/
  | surroundings (host : Host Board)

namespace Move

variable {n : Nat}

/-- What a move does to the board, whichever container it goes through. -/
def demand? : Move n → Option Demand
  | ask _ r => some (.request r)
  | restrict unavailable rejectWrites => some (.restriction unavailable rejectWrites)
  | _ => none

/-- Makes a move. -/
def perform : Move n → Application Board → Option (Except Failure Reply) × Application Board
  | ask number r, app =>
    let (reply, app) := (Application.answer number r).start app
    (some reply, app)
  | change number what, app => (none, ((Application.change number what).start app).2)
  | restrict unavailable rejectWrites, app =>
    let memory := { app.host.memory with unavailable, rejectWrites }
    (none, { app with host := { app.host with memory } })
  | surroundings host, app => (none, { app with host := { host with memory := app.host.memory } })

/-- A move together with the reply that it got. -/
abbrev Ended (n : Nat) := Move n × Option (Except Failure Reply)

/-- Makes moves one after the other. -/
def run : List (Move n) → Application Board → List (Ended n) × Application Board
  | [], app => ([], app)
  | move :: rest, app =>
    let (reply, app) := move.perform app
    let (ended, app) := run rest app
    ((move, reply) :: ended, app)

/-- The text that a move has copied, if it was a copy and the reply to it was a good one. -/
def copied : Ended n → Option Text
  | (ask _ (.copy t), some (.ok reply)) => if reply.ok then some t else none
  | _ => none

/-- The text of the latest copy that succeeded. -/
def lastCopied (ended : List (Ended n)) : Option Text := (ended.filterMap copied).getLast?

theorem copied_none (move : Move n) : copied (move, none) = none := by
  rcases move with ⟨_, _ | _⟩ | _ | _ | _ <;> rfl

theorem lastCopied_concat (ended : List (Ended n)) (e : Ended n) :
    lastCopied (ended ++ [e]) = (copied e).or (lastCopied ended) := by
  rw [lastCopied, List.filterMap_append, List.getLast?_append, List.filterMap_cons,
    List.filterMap_nil]
  rcases copied e with _ | t <;> rfl

end Move

variable {n : Nat}

/-! ### What an answer does to the board -/

theorem answer_copy_ok_iff (board : Board) (t : Text) :
    ∃ reply, (board.answer (.copy t)).1 = .ok reply ∧
      (reply.ok = true ↔ board.unavailable = [] ∧ board.rejectWrites = []) := by
  unfold answer
  split
  · next hu =>
    dsimp only
    split
    · next hw => exact ⟨_, rfl, iff_of_true rfl ⟨hu, hw⟩⟩
    · next hw => exact ⟨_, rfl, iff_of_false Bool.false_ne_true fun h => hw h.2⟩
  · next hu => exact ⟨_, rfl, iff_of_false Bool.false_ne_true fun h => hu h.1⟩

theorem answer_read (board : Board) {held : Option Text} (hu : board.unavailable = [])
    (htext : board.text = .ofText? held) : (board.answer .read).1 = .ok (reading held) := by
  unfold answer
  rw [if_pos hu, htext]
  cases held with
  | none => rfl
  | some t => exact Reply.success_text t

theorem even_answer (board : Board) (h : board.opened = board.released) (r : Request) :
    (board.answer r).2.opened = (board.answer r).2.released := by
  have hvisited : board.visited.opened = board.visited.released := congrArg (· + 1) h
  unfold answer
  split
  · cases r with
    | copy t =>
      dsimp only
      split <;> exact hvisited
    | read => exact hvisited
  · exact h

/-- The text on the board changes only in a copy with a good reply, and then it is what was
copied. -/
theorem text_answer (board : Board) (r : Request) (number : Fin n) {held : Option Text}
    (htext : board.text = .ofText? held) :
    (board.answer r).2.text =
      .ofText? ((Move.copied (.ask number r, some (board.answer r).1)).or held) := by
  unfold answer
  split
  · cases r with
    | copy t =>
      dsimp only
      split
      · rfl
      · exact htext
    | read => exact htext
  · cases r <;> exact htext

namespace Move

variable {app : Application Board}

/-- A move that makes no demand on the board gets no reply and leaves the board as it is. -/
theorem perform_of_none {move : Move n} (hd : move.demand? = none) (h : app.OnBoard n) :
    (move.perform app).1 = none ∧ (move.perform app).2.host.memory = app.host.memory ∧
      (move.perform app).2.OnBoard n := by
  cases move with
  | ask number r => cases hd
  | change number what => exact ⟨rfl, h.change number what⟩
  | restrict unavailable rejectWrites => cases hd
  | surroundings host => exact ⟨rfl, rfl, h.of_containers rfl⟩

/-- A demand is met by the board, whichever container it goes through. -/
theorem perform_of_demand {move : Move n} {d : Demand} (hd : move.demand? = some d)
    (h : app.OnBoard n) :
    (move.perform app).1 = (app.host.memory.meet d).1 ∧
      (move.perform app).2.host.memory = (app.host.memory.meet d).2 ∧
      (move.perform app).2.OnBoard n := by
  cases move with
  | ask number r =>
    cases hd
    obtain ⟨c, hnumber, hc⟩ := h.exists_container number
    obtain ⟨hreply, hmemory⟩ := Command.start_answer_on_board hc.adapter r app.host
    rw [perform, Application.start_answer hnumber]
    exact ⟨congrArg some hreply, hmemory, h.of_containers rfl⟩
  | change number what => cases hd
  | restrict unavailable rejectWrites =>
    cases hd
    exact ⟨rfl, rfl, h.of_containers rfl⟩
  | surroundings host => cases hd

/-- What holds between the moves: the board holds the text of the latest copy that succeeded, and
all its handles have been released. -/
structure Holds (ended : List (Ended n)) (app : Application Board) : Prop where
  onBoard : app.OnBoard n
  text : app.host.memory.text = .ofText? (lastCopied ended)
  even : app.host.memory.opened = app.host.memory.released

/-- One move preserves what holds. -/
theorem Holds.perform {ended : List (Ended n)} (h : Holds ended app) (move : Move n) :
    Holds (ended ++ [(move, (move.perform app).1)]) (move.perform app).2 := by
  cases hd : move.demand? with
  | none =>
    obtain ⟨hreply, hmemory, honboard⟩ := perform_of_none hd h.onBoard
    refine ⟨honboard, ?_, by rw [hmemory, h.even]⟩
    rw [hmemory, hreply, lastCopied_concat, copied_none, Option.none_or, h.text]
  | some d =>
    obtain ⟨hreply, hmemory, honboard⟩ := perform_of_demand hd h.onBoard
    refine ⟨honboard, ?_, ?_⟩
    · rw [hmemory, hreply, lastCopied_concat]
      cases move with
      | ask number r =>
        cases hd
        exact text_answer app.host.memory r number h.text
      | restrict unavailable rejectWrites =>
        cases hd
        exact h.text
      | _ => cases hd
    · rw [hmemory]
      cases d with
      | request r => exact even_answer app.host.memory h.even r
      | restriction unavailable rejectWrites => exact h.even

/-- Moves preserve what holds, by induction on them. -/
theorem Holds.run {ended : List (Ended n)} (h : Holds ended app) (moves : List (Move n)) :
    Holds (ended ++ (Move.run moves app).1) (Move.run moves app).2 := by
  induction moves generalizing ended app with
  | nil => rwa [Move.run, List.append_nil]
  | cons move rest ih =>
    -- the first of these moves is the last one of those before the others
    have hrest := ih (h.perform move)
    rwa [List.append_assoc] at hrest

end Move

/-- What a board replies when demands are made on it one after the other. -/
def replies (board : Board) : List Demand → List (Except Failure Reply)
  | [] => []
  | d :: rest => (board.meet d).1.toList ++ (board.meet d).2.replies rest

/-- The replies that moves get are those of the board to their demands. -/
theorem Move.replies_run (moves : List (Move n)) {app : Application Board} (h : app.OnBoard n) :
    (Move.run moves app).1.filterMap Prod.snd =
      app.host.memory.replies (moves.filterMap Move.demand?) := by
  induction moves generalizing app with
  | nil => rfl
  | cons move rest ih =>
    rw [Move.run]
    dsimp only
    rw [List.filterMap_cons, List.filterMap_cons]
    cases hd : move.demand? with
    | none =>
      obtain ⟨hreply, hmemory, honboard⟩ := Move.perform_of_none hd h
      rw [hreply, ih honboard, hmemory]
    | some d =>
      obtain ⟨hreply, hmemory, honboard⟩ := Move.perform_of_demand hd h
      rw [hreply, ih honboard, hmemory]
      dsimp only
      rw [replies]
      rcases (app.host.memory.meet d).1 with _ | reply <;> rfl

/-- **A board is a register.** It is shared by any number of containers, and holds no text at first.
Moves are made, and at whatever point they have reached: all handles have been released; a copy
succeeds exactly if neither of the two reasons stands against it; a read that is not refused a
handle gets the text of the latest copy that succeeded, or the sentence that there is none; any move
other than a copy that succeeds leaves the text as it is; and the replies so far are those that the
same demands get from the same board through any other containers on any other host. -/
theorem is_register {app reached : Application Board} (happ : app.OnBoard n)
    (htext : app.host.memory.text = .null)
    (heven : app.host.memory.opened = app.host.memory.released) {before : List (Move n)}
    {ended : List (Move.Ended n)} (hrun : Move.run before app = (ended, reached)) :
    reached.host.memory.opened = reached.host.memory.released ∧
      (∀ (number : Fin n) (t : Text), ∃ reply,
        ((Move.ask number (.copy t)).perform reached).1 = some (.ok reply) ∧
          (reply.ok = true ↔
            reached.host.memory.unavailable = [] ∧ reached.host.memory.rejectWrites = [])) ∧
      (∀ number : Fin n, reached.host.memory.unavailable = [] →
        ((Move.ask number .read).perform reached).1 =
          some (.ok (reading (Move.lastCopied ended)))) ∧
      (∀ next : Move n, Move.copied (next, (next.perform reached).1) = none →
        (next.perform reached).2.host.memory.text = reached.host.memory.text) ∧
      ∀ {m : Nat} {other : Application Board} (moves : List (Move m)), other.OnBoard m →
        other.host.memory = app.host.memory →
        moves.filterMap Move.demand? = before.filterMap Move.demand? →
          (Move.run moves other).1.filterMap Prod.snd = ended.filterMap Prod.snd := by
  have hstart : Move.Holds [] app := ⟨happ, htext, heven⟩
  have hreached := hstart.run before
  have hreplies := Move.replies_run before happ
  rw [hrun, List.nil_append] at hreached
  rw [hrun] at hreplies
  refine ⟨hreached.even, fun number t => ?_, fun number hu => ?_, fun next hnext => ?_,
    fun moves hother hmemory hmoves => ?_⟩
  · obtain ⟨reply, hanswer, hok⟩ := answer_copy_ok_iff reached.host.memory t
    have hd : (Move.ask number (.copy t)).demand? = some (.request (.copy t)) := rfl
    obtain ⟨hreply, -⟩ := Move.perform_of_demand hd hreached.onBoard
    exact ⟨reply, hreply.trans (congrArg some hanswer), hok⟩
  · have hd : (Move.ask number .read).demand? = some (.request .read) := rfl
    obtain ⟨hreply, -⟩ := Move.perform_of_demand hd hreached.onBoard
    exact hreply.trans (congrArg some (answer_read _ hu hreached.text))
  · have hafter := (hreached.perform next).text
    rw [Move.lastCopied_concat, hnext, Option.none_or] at hafter
    rw [hafter, hreached.text]
  · -- both runs get the replies of one board to one list of demands
    rw [Move.replies_run moves hother, hmemory, hmoves, hreplies]

/-- The empty text is a text: it is read back through the other container after a saving that was
refused and a copy that was rejected. -/
theorem is_register_of_empty_text :
    let c : Container Board := .around (Host.inMemory clipboard)
    let app : Application Board := { host := .bare {}, containers := [c, c] }
    let before : List (Move 2) := [.ask 1 .read, .ask 0 (.copy []),
      .change 1 (.save (.mapping [("timeout", .text "soon")])), .restrict [] "full",
      .ask 1 (.copy "x")]
    let reached := (Move.run before app).2
    (app.OnBoard 2 ∧ app.host.memory.text = .null ∧
        app.host.memory.opened = app.host.memory.released) ∧
      (Move.run before app).1.filterMap Prod.snd =
        [.ok ⟨false, none, some "Failed to read from clipboard: clipboard contains no text"⟩,
          .ok ⟨true, none, none⟩, .ok ⟨false, none, some "Failed to copy to clipboard: full"⟩] ∧
      reached.host.memory.opened = reached.host.memory.released ∧
      ((Move.ask (1 : Fin 2) .read).perform reached).1 = some (.ok ⟨true, some [], none⟩) := by
  intro c app before reached
  have hc : c.HasBoard := ⟨rfl, rfl⟩
  have happ : app.OnBoard 2 :=
    ⟨rfl, List.forall_mem_cons.2 ⟨hc, List.forall_mem_singleton.2 hc⟩⟩
  have hrun : Move.run before app = ((Move.run before app).1, reached) := Prod.mk.eta.symm
  obtain ⟨heven, -, hread, -⟩ := is_register happ rfl rfl hrun
  exact ⟨⟨happ, rfl, rfl⟩, rfl, heven, hread 1 rfl⟩

end Board

end Pasteboard
