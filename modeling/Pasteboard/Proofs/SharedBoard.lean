import Mathlib.Data.List.Count
import Pasteboard.Proofs.CommandTurns

/-!
# Commands on one board

Any number of commands copy and read at the same time on a container with a board in memory that is
available and accepts what is put on it, in any order of turns. The board is made to keep a log of
its handles, and beside each entry stands the number of the command whose turn it was
(`Ledger.signed`); without the log everything goes the same way.

The invariant (`Board.Steady`) ties what each command has done so far to its own entries in the log
(`Board.Tells`) and the text on the board to the latest entry about setting. One entry more keeps it
(`Board.Steady.append`), and every turn makes one entry or does nothing (`Board.Steady.take`).
-/

namespace Pasteboard

variable {σ : Type}

/-! ### A log with the numbers of the commands -/

/-- What a clipboard with a log acts on, and its log with the number of a command beside each
entry. -/
structure Ledger (σ : Type) where
  kept : Logged Entry σ
  signed : List (Nat × Entry) := []

/-- Commands on a clipboard with a log take turns, and sign for the entries that they make. -/
def Clipboard.signedTurns (p : Clipboard σ) :
    Turns Nat (Ledger σ) (Invocation (Logged Entry σ)) where
  who number := number
  advance number i ledger :=
    let (i, kept) := i.advance p.logged ledger.kept
    (i, ⟨kept, ledger.signed ++ (kept.log.drop ledger.kept.log.length).map (number, ·)⟩)

/-- **Signing for entries makes no difference**, and neither does the log. -/
theorem Clipboard.alike_signed (p : Clipboard σ) (requests : List Request) (schedule : List Nat)
    (s : σ) :
    Alike (fun ledger t => ledger.kept.state = t) (LevelCommands IsLogged)
      (p.signedTurns.run schedule ⟨⟨⟨s, []⟩, []⟩, requests.map Invocation.begin⟩)
      (p.turns.run schedule ⟨s, requests.map Invocation.begin⟩) := by
  refine Turns.run_alike p.signedTurns p.turns (fun _ => rfl) ?_ schedule ?_
  · rintro number i j ledger _ rfl hij
    exact (covers_logged p).advance_invocation hij ledger.kept
  · refine alike_begin _ ?_ requests
    rfl

namespace Board

/-- The text that an entry says was put on the board. -/
def textSet (requests : List Request) : Nat × Entry → Option Text
  | (i, .used _ .set) =>
    match requests[i]? with
    | some (.copy t) => some t
    | _ => none
  | _ => none

/-- The text that was put on the board last. -/
def lastSet (requests : List Request) (signed : List (Nat × Entry)) : Option Text :=
  (signed.filterMap (textSet requests)).getLast?

theorem lastSet_concat (requests : List Request) (signed : List (Nat × Entry)) (e : Nat × Entry) :
    lastSet requests (signed ++ [e]) = (textSet requests e).or (lastSet requests signed) := by
  rw [lastSet, List.filterMap_append, List.getLast?_append, List.filterMap_cons,
    List.filterMap_nil]
  rcases textSet requests e with _ | t <;> rfl

/-- The entry was made by the command with a number. -/
def isBy (i : Nat) (e : Nat × Entry) : Bool := e.1 == i

/-- The entries that a command makes, one in each of its turns. -/
def story (i number : Nat) (r : Request) : List (Nat × Entry) :=
  [(i, .handed number false), (i, .used number r.use), (i, .used number .release)]

/-- What the hook of a request ends with, given the text on the board. -/
def due : Request → Option Text → Except Failure Value
  | .copy _, _ => .ok .null
  | .read, some t => .ok (.text t)
  | .read, none => .error (.operation .read "clipboard contains no text")

/-- What a request is replied, given the text on the board. -/
def reply : Request → Option Text → Reply
  | .copy _, _ => ⟨true, none, none⟩
  | .read, held => reading held

theorem verdict_due (r : Request) (held : Option Text) :
    Command.verdict r.operation (due r held) = .ok (reply r held) := by
  cases r with
  | copy t => exact Reply.success_null
  | read =>
    cases held with
    | none => exact verdict_of_no_text
    | some t => exact Reply.success_text t

/-- A tag that is there stays. -/
theorem mapError_due (r : Request) (held : Option Text) :
    (due r held).mapError (.asOperation r.operation) = due r held := by
  rcases r with t | _ <;> rcases held with _ | t <;> rfl

/-! ### The steps of a command on the board -/

/-- The handle with a number. -/
def handle (number : Nat) : Handle (Logged Entry Board) :=
  Handle.logged (.used number) { hooks }

/-- The board after the hook of a request. -/
def served (board : Board) : Request → Board
  | .copy t => { board with text := .text t }
  | .read => board

variable {board : Board} {log : List Entry}

theorem start_reach_logged (h : board.unavailable = []) :
    clipboard.logged.reach.start ⟨board, log⟩ = (.ok (handle (Entry.handedOut log)),
      ⟨{ board with opened := board.opened + 1 },
        log ++ [.handed (Entry.handedOut log) false]⟩) := by
  simp only [Clipboard.reach, Action.start_mapFailure, Clipboard.logged, Action.start_ofFunction,
    start_acquire, if_pos h]
  rfl

theorem start_serve_logged (h : board.rejectWrites = []) {held : Option Text}
    (htext : board.text = .ofText? held) (number : Nat) (r : Request) :
    (((handle number).ifOpen (r.hook (handle number).hooks)).mapFailure
        (.asOperation r.operation)).start ⟨board, log⟩ =
      (due r held, ⟨served board r, log ++ [.used number r.use]⟩) := by
  have hhook : (r.hook hooks).start board = (due r held, served board r) := by
    cases r with
    | copy t =>
      rw [Request.hook, Action.start_bind, start_set, if_pos h]
      rfl
    | read =>
      rw [Request.hook, start_get, htext]
      cases held <;> rfl
  have hlogged : ((handle number).ifOpen (r.hook (handle number).hooks)).start ⟨board, log⟩ =
      (due r held, ⟨served board r, log ++ [.used number r.use]⟩) := by
    refine (Clipboard.start_hook_logged (Entry.used number) hooks r ⟨board, log⟩).trans ?_
    rw [hhook]
  rw [Action.start_mapFailure, hlogged, mapError_due]

theorem advance_opening (h : board.unavailable = []) (r : Request) :
    Phase.opening.advance clipboard.logged r ⟨board, log⟩ =
      (.held (handle (Entry.handedOut log)), ⟨{ board with opened := board.opened + 1 },
        log ++ [.handed (Entry.handedOut log) false]⟩) := by
  rw [Phase.advance, start_reach_logged h]

theorem advance_held (h : board.rejectWrites = []) {held : Option Text}
    (htext : board.text = .ofText? held) (number : Nat) (r : Request) :
    (Phase.held (handle number)).advance clipboard.logged r ⟨board, log⟩ =
      (.leaving (handle number) (due r held),
        ⟨served board r, log ++ [.used number r.use]⟩) := by
  rw [Phase.advance, start_serve_logged h htext]

theorem advance_leaving (number : Nat) (r : Request) (held : Option Text) :
    (Phase.leaving (handle number) (due r held)).advance clipboard.logged r ⟨board, log⟩ =
      (.answered (.ok (reply r held)), ⟨{ board with released := board.released + 1 },
        log ++ [.used number .release]⟩) := by
  have hclose : (handle number).close.start ⟨board, log⟩ = (.ok (), ⟨{ board with
      released := board.released + 1 }, log ++ [.used number .release]⟩) := rfl
  rw [Phase.advance, hclose, ← verdict_due]

/-! ### What holds whoever has had a turn -/

/-- What the log tells about the command `i` with the request `r` after its first `turns` turns. -/
def Tells (requests : List Request) (signed : List (Nat × Entry)) (i : Nat) (r : Request)
    (turns : Nat) : Phase (Logged Entry Board) → Prop
  | .opening => turns = 0 ∧ signed.filter (isBy i) = []
  | .held h => turns = 1 ∧ ∃ number, h = handle number ∧
      signed.filter (isBy i) = (story i number r).take 1
  | .leaving h result => turns = 2 ∧ ∃ number, h = handle number ∧
      signed.filter (isBy i) = (story i number r).take 2 ∧
      ∃ front back, signed = front ++ (i, .used number r.use) :: back ∧
        result = due r (lastSet requests front)
  | .answered ended => 3 ≤ turns ∧ ∃ number, signed.filter (isBy i) = story i number r ∧
      ∃ front back, signed = front ++ (i, .used number r.use) :: back ∧
        ended = .ok (reply r (lastSet requests front))

/-- The command has a handle that has not been released. -/
def isOpen (i : Invocation (Logged Entry Board)) : Bool :=
  match i.phase with
  | .held _ => true
  | .leaving _ _ => true
  | _ => false

/-- What holds after the turns `done`. -/
structure Steady (requests : List Request) (done : List Nat)
    (c : Concurrent (Ledger Board) (Invocation (Logged Entry Board))) : Prop where
  requested : ∀ i : Nat, c.parts[i]?.map Invocation.request = requests[i]?
  available : c.shared.kept.state.unavailable = []
  accepting : c.shared.kept.state.rejectWrites = []
  text : c.shared.kept.state.text = .ofText? (lastSet requests c.shared.signed)
  /-- The handles that are out are those of the commands in their course. -/
  even : c.shared.kept.state.opened = c.shared.kept.state.released + c.parts.countP isOpen
  log : c.shared.kept.log = c.shared.signed.map Prod.snd
  told : ∀ (i : Nat) (a : Invocation (Logged Entry Board)), c.parts[i]? = some a →
    Tells requests c.shared.signed i a.request (done.count i) a.phase
  signers : ∀ e ∈ c.shared.signed, ∃ r, requests[e.1]? = some r
  numbered : ∀ e ∈ c.shared.signed, ∀ number, e.2.isAbout number = true →
    number < Entry.handedOut c.shared.kept.log
  /-- All that is done with a handle is done by one command. -/
  owned : ∀ e ∈ c.shared.signed, ∀ e' ∈ c.shared.signed, ∀ number,
    e.2.isAbout number = true → e'.2.isAbout number = true → e.1 = e'.1

theorem steady_begin (handles : Nat) (requests : List Request) :
    Steady requests [] ⟨⟨⟨{ opened := handles, released := handles }, []⟩, []⟩,
      requests.map Invocation.begin⟩ := by
  have hclosed : (requests.map Invocation.begin).countP isOpen = 0 := by
    rw [List.countP_eq_zero]
    intro a ha
    obtain ⟨r, -, rfl⟩ := List.mem_map.1 ha
    exact Bool.false_ne_true
  constructor
  case requested =>
    intro i
    rw [List.getElem?_map, Option.map_map]
    exact Option.map_id'
  case available => rfl
  case accepting => rfl
  case text => rfl
  case even => rw [hclosed]; rfl
  case log => rfl
  case told =>
    intro i a ha
    rw [List.getElem?_map, Option.map_eq_some_iff] at ha
    obtain ⟨r, -, rfl⟩ := ha
    exact ⟨rfl, rfl⟩
  case signers => nofun
  case numbered => nofun
  case owned => nofun

variable {requests : List Request} {signed : List (Nat × Entry)} {done : List Nat} {i : Nat}
  {c : Concurrent (Ledger Board) (Invocation (Logged Entry Board))}

/-- An entry of another command and its turn change nothing of what the log tells. -/
theorem Tells.append {r : Request} {j : Nat} {phase : Phase (Logged Entry Board)}
    (h : Tells requests signed j r (done.count j) phase) (hij : i ≠ j) (e : Entry) :
    Tells requests (signed ++ [(i, e)]) j r ((done ++ [i]).count j) phase := by
  have hcount : (done ++ [i]).count j = done.count j := by
    rw [List.count_append, List.count_singleton, if_neg (by simpa using hij), Nat.add_zero]
  have hfilter : (signed ++ [(i, e)]).filter (isBy j) = signed.filter (isBy j) := by
    rw [List.filter_append, List.filter_cons_of_neg (by simpa [isBy] using hij), List.filter_nil,
      List.append_nil]
  rw [hcount]
  cases phase with
  | opening => exact ⟨h.1, hfilter.trans h.2⟩
  | held handle =>
    obtain ⟨hturns, number, hhandle, hstory⟩ := h
    exact ⟨hturns, number, hhandle, hfilter.trans hstory⟩
  | leaving handle result =>
    obtain ⟨hturns, number, hhandle, hstory, front, back, rfl, hresult⟩ := h
    exact ⟨hturns, number, hhandle, hfilter.trans hstory, front, back ++ [(i, e)],
      by rw [List.append_assoc]; rfl, hresult⟩
  | answered ended =>
    obtain ⟨hturns, number, hstory, front, back, rfl, hended⟩ := h
    exact ⟨hturns, number, hfilter.trans hstory, front, back ++ [(i, e)],
      by rw [List.append_assoc]; rfl, hended⟩

/-- A turn without an entry changes nothing of what the log tells about the others. -/
theorem Tells.turn {r : Request} {j : Nat} {phase : Phase (Logged Entry Board)}
    (h : Tells requests signed j r (done.count j) phase) (hij : i ≠ j) :
    Tells requests signed j r ((done ++ [i]).count j) phase := by
  rwa [List.count_append, List.count_singleton, if_neg (by simpa using hij), Nat.add_zero]

/-- The count of open handles after a turn. -/
private theorem countP_set {parts : List (Invocation (Logged Entry Board))}
    {a : Invocation (Logged Entry Board)} (ha : parts[i]? = some a)
    (b : Invocation (Logged Entry Board)) :
    (parts.set i b).countP isOpen + (isOpen a).toNat = parts.countP isOpen + (isOpen b).toNat := by
  induction parts generalizing i with
  | nil => cases ha
  | cons first rest ih =>
    cases i with
    | zero =>
      cases ha
      rw [List.set_cons_zero, List.countP_cons, List.countP_cons]
      cases isOpen a <;> cases isOpen b <;> simp
    | succ i =>
      have hrest := ih (i := i) ha
      rw [List.set_cons_succ, List.countP_cons, List.countP_cons]
      omega

/-- **One entry more.** A command has a turn in which it makes the entry `e`, goes on to `phase` and
leaves `board`; the entry is about a new handle or about one that the command has dealt with. -/
theorem Steady.append (h : Steady requests done c) {a : Invocation (Logged Entry Board)}
    (ha : c.parts[i]? = some a) (e : Entry) (phase : Phase (Logged Entry Board)) (board : Board)
    (hreasons : board.unavailable = [] ∧ board.rejectWrites = [])
    (htext : board.text =
      .ofText? ((textSet requests (i, e)).or (lastSet requests c.shared.signed)))
    (heven : board.opened + c.shared.kept.state.released + (isOpen a).toNat =
      board.released + c.shared.kept.state.opened + (isOpen { a with phase }).toNat)
    (htells : Tells requests (c.shared.signed ++ [(i, e)]) i a.request (done.count i + 1) phase)
    (hentry : ∀ number, e.isAbout number = true →
      (number = Entry.handedOut c.shared.kept.log ∧ e.isHanded = true) ∨
        ∃ e', (i, e') ∈ c.shared.signed ∧ e'.isAbout number = true) :
    Steady requests (done ++ [i])
      ⟨⟨⟨board, c.shared.kept.log ++ [e]⟩, c.shared.signed ++ [(i, e)]⟩,
        c.parts.set i { a with phase }⟩ := by
  have hlength := (List.getElem?_eq_some_iff.1 ha).1
  have hhanded : Entry.handedOut (c.shared.kept.log ++ [e]) =
      Entry.handedOut c.shared.kept.log + e.isHanded.toNat := by
    rw [Entry.handedOut, List.countP_append, List.countP_singleton]
    cases e.isHanded <;> rfl
  constructor
  case requested =>
    intro j
    rw [← h.requested j]
    by_cases hij : i = j
    · subst hij
      rw [List.getElem?_set_self hlength, ha]
      rfl
    · rw [List.getElem?_set_ne hij]
  case available => exact hreasons.1
  case accepting => exact hreasons.2
  case text =>
    rw [lastSet_concat]
    exact htext
  case even =>
    have hcount := countP_set ha { a with phase }
    have hbefore := h.even
    dsimp only
    omega
  case log =>
    rw [List.map_append, ← h.log]
    rfl
  case told =>
    intro j b hj
    rcases getElem?_set_cases ha hj with ⟨rfl, rfl⟩ | ⟨hji, hj⟩
    · rw [List.count_append, List.count_singleton_self]
      exact htells
    · exact Tells.append (h.told j b hj) hji.symm e
  case signers =>
    intro e' he'
    rcases List.mem_append.1 he' with he' | he'
    · exact h.signers e' he'
    · rw [List.mem_singleton] at he'
      subst he'
      exact ⟨a.request, by rw [← h.requested i, ha]; rfl⟩
  case numbered =>
    intro e' he' number habout
    rw [hhanded]
    rcases List.mem_append.1 he' with he' | he'
    · exact Nat.lt_add_right _ (h.numbered e' he' number habout)
    · rw [List.mem_singleton] at he'
      subst he'
      -- a new handle has the next number, and the log counts it from now on
      rcases hentry number habout with ⟨rfl, hnew⟩ | ⟨e', he', habout'⟩
      · rw [hnew]
        exact Nat.lt_succ_self _
      · exact Nat.lt_add_right _ (h.numbered _ he' number habout')
  case owned =>
    -- the new entry is about no handle of another command
    have hnew : ∀ e' ∈ c.shared.signed, ∀ number, e.isAbout number = true →
        e'.2.isAbout number = true → e'.1 = i := by
      intro e' he' number habout habout'
      rcases hentry number habout with ⟨rfl, -⟩ | ⟨e'', he'', habout''⟩
      · exact absurd (h.numbered e' he' _ habout') (Nat.lt_irrefl _)
      · exact h.owned e' he' _ he'' number habout' habout''
    intro x hx y hy number hxn hyn
    rcases List.mem_append.1 hx with hx | hx <;> rcases List.mem_append.1 hy with hy | hy
    · exact h.owned x hx y hy number hxn hyn
    · rw [List.mem_singleton] at hy
      subst hy
      exact hnew x hx number hyn hxn
    · rw [List.mem_singleton] at hx
      subst hx
      exact (hnew y hy number hxn hyn).symm
    · rw [List.mem_singleton] at hx hy
      rw [hx, hy]

/-- A turn changes nothing if its command has its reply, or if there is no such command. -/
theorem Steady.idle (h : Steady requests done c)
    (hidle : ∀ a, c.parts[i]? = some a → ∃ ended, a.phase = .answered ended) :
    Steady requests (done ++ [i]) c := by
  refine ⟨h.requested, h.available, h.accepting, h.text, h.even, h.log, fun j b hj => ?_, h.signers,
    h.numbered, h.owned⟩
  have htold := h.told j b hj
  by_cases hij : i = j
  · subst hij
    obtain ⟨ended, hphase⟩ := hidle b hj
    rw [hphase] at htold ⊢
    obtain ⟨hturns, hrest⟩ := htold
    exact ⟨Nat.le_trans hturns (by rw [List.count_append]; exact Nat.le_add_right _ _), hrest⟩
  · exact htold.turn hij

/-- A step that makes one entry, which the command signs. -/
theorem advance_signed (number : Nat) {a : Invocation (Logged Entry Board)} {ledger : Ledger Board}
    {phase : Phase (Logged Entry Board)} {e : Entry}
    (h : a.phase.advance clipboard.logged a.request ledger.kept =
      (phase, ⟨board, ledger.kept.log ++ [e]⟩)) :
    clipboard.signedTurns.advance number a ledger =
      ({ a with phase }, ⟨⟨board, ledger.kept.log ++ [e]⟩, ledger.signed ++ [(number, e)]⟩) := by
  simp only [Clipboard.signedTurns, Invocation.advance, h, List.drop_left, List.map_cons,
    List.map_nil]

/-- An entry of the command is in the log. -/
private theorem mem_of_story {e : Nat × Entry} {entries : List (Nat × Entry)}
    (h : signed.filter (isBy i) = entries) (he : e ∈ entries) : e ∈ signed := by
  rw [← h] at he
  exact (List.mem_filter.1 he).1

/-- The story goes on. -/
private theorem filter_concat {entries : List (Nat × Entry)}
    (h : signed.filter (isBy i) = entries) (e : Entry) :
    (signed ++ [(i, e)]).filter (isBy i) = entries ++ [(i, e)] := by
  have hby : isBy i (i, e) = true := beq_self_eq_true i
  rw [List.filter_append, h, List.filter_cons_of_pos hby, List.filter_nil]

/-- **The invariant is kept by every turn**, one case for each phase. -/
theorem Steady.take (h : Steady requests done c) (i : Nat) :
    Steady requests (done ++ [i]) (clipboard.signedTurns.take c i) := by
  rcases ha : c.parts[i]? with _ | ⟨r, phase⟩
  · -- nobody has this number
    have htake : clipboard.signedTurns.take c i = c := Turns.take_of_none ha
    rw [htake]
    refine h.idle fun a hsome => ?_
    rw [ha] at hsome
    cases hsome
  have hrequest : requests[i]? = some r := by
    rw [← h.requested i, ha]
    rfl
  have htake : clipboard.signedTurns.take c i = _ := Turns.take_of_getElem? ha
  have htold : Tells requests c.shared.signed i r (done.count i) phase := h.told i _ ha
  obtain ⟨⟨⟨board, log⟩, signed⟩, parts⟩ := c
  rw [htake]
  cases phase with
  | opening =>
    obtain ⟨hturns, hnone⟩ := htold
    rw [advance_signed i (advance_opening h.available r)]
    refine h.append ha _ _ _ ⟨h.available, h.accepting⟩ h.text ?_ ?_ ?_
    · simp only [isOpen, Bool.toNat_true, Bool.toNat_false]
      omega
    · exact ⟨congrArg (· + 1) hturns, _, rfl, filter_concat hnone _⟩
    · intro number habout
      exact .inl ⟨(beq_iff_eq.1 habout).symm, rfl⟩
  | held handle =>
    -- the board answers with the text that was set last, which is where the reply comes from
    obtain ⟨hturns, number, rfl, hstory⟩ := htold
    rw [advance_signed i (advance_held h.accepting h.text number r)]
    refine h.append ha _ _ _ ?_ ?_ ?_ ?_ ?_
    · cases r <;> exact ⟨h.available, h.accepting⟩
    · cases r with
      | copy t =>
        simp only [textSet, Request.use, hrequest]
        rfl
      | read => exact h.text
    · cases r <;> simp only [isOpen, served, Bool.toNat_true] <;> omega
    · exact ⟨congrArg (· + 1) hturns, number, rfl, filter_concat hstory _, signed, [], rfl, rfl⟩
    · intro n habout
      exact .inr ⟨_, mem_of_story hstory List.mem_cons_self, habout⟩
  | leaving handle result =>
    obtain ⟨hturns, number, rfl, hstory, front, back, hsigned, rfl⟩ := htold
    rw [advance_signed i (advance_leaving number r _)]
    refine h.append ha _ _ _ ⟨h.available, h.accepting⟩ h.text ?_ ?_ ?_
    · simp only [isOpen, Bool.toNat_true, Bool.toNat_false]
      omega
    · refine ⟨by omega, number, filter_concat hstory _, front,
        back ++ [(i, .used number .release)], ?_, rfl⟩
      dsimp only at hsigned ⊢
      rw [hsigned, List.append_assoc]
      rfl
    · intro n habout
      exact .inr ⟨_, mem_of_story hstory List.mem_cons_self, habout⟩
  | answered ended =>
    have hsame : parts.set i ⟨r, .answered ended⟩ = parts := by
      obtain ⟨hlength, hpart⟩ := List.getElem?_eq_some_iff.1 ha
      rw [← hpart]
      exact List.set_getElem_self hlength
    simp only [Clipboard.signedTurns, Invocation.advance, Phase.advance, List.drop_length,
      List.map_nil, List.append_nil, hsame]
    refine h.idle fun a hsome => ?_
    rw [ha] at hsome
    cases hsome
    exact ⟨ended, rfl⟩

/-! ### What follows -/

/-- After three turns a command has its reply, which is that of the board at the time when the
command used its handle. -/
theorem Steady.answered (h : Steady requests done c) {r : Request} (hr : requests[i]? = some r)
    (hturns : 3 ≤ done.count i) :
    ∃ number front back, c.shared.signed = front ++ (i, .used number r.use) :: back ∧
      c.shared.signed.filter (isBy i) = story i number r ∧
      c.parts[i]? = some ⟨r, .answered (.ok (reply r (lastSet requests front)))⟩ := by
  have hrequest := h.requested i
  rw [hr, Option.map_eq_some_iff] at hrequest
  obtain ⟨⟨request, phase⟩, ha, rfl⟩ := hrequest
  have htold : Tells requests c.shared.signed i request (done.count i) phase := h.told i _ ha
  cases phase with
  | opening =>
    obtain ⟨hzero, -⟩ := htold
    omega
  | held handle =>
    obtain ⟨hone, -⟩ := htold
    omega
  | leaving handle result =>
    obtain ⟨htwo, -⟩ := htold
    omega
  | answered ended =>
    obtain ⟨-, number, hstory, front, back, hsigned, rfl⟩ := htold
    exact ⟨number, front, back, hsigned, hstory, ha⟩

/-- What was put on the board last is what one of the commands was to copy. -/
theorem exists_copy_of_lastSet {t : Text} (h : lastSet requests signed = some t) :
    .copy t ∈ requests := by
  obtain ⟨⟨i, e⟩, -, he⟩ := List.mem_filterMap.1 (List.mem_of_getLast? h)
  cases e with
  | refused => cases he
  | handed number closed => cases he
  | used number use =>
    cases use with
    | set =>
      simp only [textSet] at he
      split at he
      · next t' hr =>
        cases he
        exact List.mem_of_getElem? hr
      · cases he
    | _ => cases he

/-- Once something has been put on the board, something was put on it last. -/
theorem exists_lastSet {t : Text} {number : Nat} (hr : requests[i]? = some (.copy t))
    (he : (i, .used number .set) ∈ signed) : ∃ t', lastSet requests signed = some t' := by
  have hset : textSet requests (i, .used number .set) = some t := by simp only [textSet, hr]
  have hmem : t ∈ signed.filterMap (textSet requests) := List.mem_filterMap.2 ⟨_, he, hset⟩
  rcases hlast : lastSet requests signed with _ | t'
  · rw [lastSet, List.getLast?_eq_none_iff] at hlast
    rw [hlast] at hmem
    cases hmem
  · exact ⟨t', rfl⟩

/-- All that is done with the handle of a command that has its reply is its own story. -/
theorem Steady.filter_isAbout (h : Steady requests done c) {r : Request} {number n : Nat}
    {closed : Bool} (hstory : c.shared.signed.filter (isBy i) = story i number r)
    (hmem : (i, .handed n closed) ∈ c.shared.signed) :
    c.shared.signed.filter (fun e => e.2.isAbout n) = story i n r := by
  have hmine : (i, Entry.handed n closed) ∈ story i number r := by
    rw [← hstory]
    exact List.mem_filter.2 ⟨hmem, beq_self_eq_true i⟩
  obtain ⟨rfl, -⟩ : n = number ∧ closed = false := by simpa [story] using hmine
  rw [← hstory]
  refine List.filter_congr fun e he => Bool.eq_iff_iff.2 ⟨fun habout => ?_, fun hby => ?_⟩
  · exact beq_iff_eq.2 (h.owned e he _ hmem n habout (beq_self_eq_true n))
  · have hin : e ∈ story i n r := by
      rw [← hstory]
      exact List.mem_filter.2 ⟨he, hby⟩
    rw [story, List.mem_cons, List.mem_cons, List.mem_singleton] at hin
    rcases hin with rfl | rfl | rfl <;> exact beq_self_eq_true n

/-- When all commands have their replies, no handle is out. -/
theorem Steady.even_of_answered (h : Steady requests done c)
    (hall : ∀ i < requests.length, 3 ≤ done.count i) :
    c.shared.kept.state.opened = c.shared.kept.state.released := by
  have hclosed : c.parts.countP isOpen = 0 := by
    rw [List.countP_eq_zero]
    intro a ha
    obtain ⟨i, hi⟩ := List.getElem?_of_mem ha
    have hrequest : requests[i]? = some a.request := by
      rw [← h.requested i, hi]
      rfl
    have hlength := (List.getElem?_eq_some_iff.1 hrequest).1
    obtain ⟨_, _, _, -, -, hpart⟩ := h.answered hrequest (hall i hlength)
    rw [hi] at hpart
    rw [Option.some.inj hpart]
    exact Bool.false_ne_true
  rw [h.even, hclosed, Nat.add_zero]

end Board

/-- **Commands at the same time.** Copies and reads take turns in any order on a container with a
board in memory that is available and accepts what is put on it; a log tells who did what with which
handle. A command has its reply after three turns. A copy succeeds. A read gets the text of the
latest setting before its own getting, or the sentence that there is none. When all have their
replies the board holds what was set last, which one of them was to copy; all handles have been
released; and all that was ever done with a handle was done by the command that it was handed to,
which used it once and released it. -/
theorem Command.concurrent_on_board (settings : SettingsRecord) (store : SettingsStore)
    (host : Host Board) (handles : Nat) (requests : List Request) (schedule : List Nat) :
    let board : Board := { opened := handles, released := handles }
    let p : Clipboard (Host Board) := Host.inMemory Board.clipboard
    let c : Container Board := ⟨settings, .injected p, some p, store⟩
    let now := c.clipboard.turns.run schedule
      ⟨{ host with memory := board }, requests.map Invocation.begin⟩
    let ledger := (Board.clipboard.signedTurns.run schedule
      ⟨⟨⟨board, []⟩, []⟩, requests.map Invocation.begin⟩).shared
    (now.shared.memory = ledger.kept.state ∧ ledger.kept.log = ledger.signed.map Prod.snd) ∧
      (∀ (i : Nat) (t : Text), requests[i]? = some (.copy t) → 3 ≤ schedule.count i →
        now.reply? i = some (.ok ⟨true, none, none⟩)) ∧
      (∀ i : Nat, requests[i]? = some .read → 3 ≤ schedule.count i → ∃ front number back,
        ledger.signed = front ++ (i, .used number .get) :: back ∧
          now.reply? i = some (.ok (Board.reading (Board.lastSet requests front)))) ∧
      ((∀ i < requests.length, 3 ≤ schedule.count i) →
        now.shared.memory.text = .ofText? (Board.lastSet requests ledger.signed) ∧
        (∀ t, .copy t ∈ requests →
          ∃ t', .copy t' ∈ requests ∧ Board.lastSet requests ledger.signed = some t') ∧
        now.shared.memory.opened = now.shared.memory.released ∧
        ∀ i number closed, (i, .handed number closed) ∈ ledger.signed →
          ∃ r, requests[i]? = some r ∧
            ledger.signed.filter (fun e => e.2.isAbout number) = Board.story i number r) := by
  intro board p c now ledger
  have hsteady : Board.Steady requests schedule (Board.clipboard.signedTurns.run schedule
      ⟨⟨⟨board, []⟩, []⟩, requests.map Invocation.begin⟩) :=
    Turns.run_induction (P := Board.Steady requests) schedule
      (Board.steady_begin handles requests) fun _ _ i h => h.take i
  have hcovers : c.clipboard.Covers Board.clipboard Host.memory _ :=
    Clipboard.covers_within (fun _ _ => rfl) Board.clipboard
  -- with and without the log, and as a part of the host, the commands go the same way
  have hhost := hcovers.alike_run requests schedule { host with memory := board }
  have hlogged := Board.clipboard.alike_signed requests schedule board
  have hreply : ∀ i, now.reply? i = _ := fun i =>
    (Clipboard.reply?_of_alike hhost i).trans (Clipboard.reply?_of_alike hlogged i).symm
  have hmemory : now.shared.memory = ledger.kept.state := hhost.shared.trans hlogged.shared.symm
  refine ⟨⟨hmemory, hsteady.log⟩, fun i t hr hturns => ?_, fun i hr hturns => ?_, fun hall => ?_⟩
  · obtain ⟨number, front, back, -, -, hpart⟩ := hsteady.answered hr hturns
    rw [hreply, Concurrent.reply?, hpart]
    rfl
  · obtain ⟨number, front, back, hsigned, -, hpart⟩ := hsteady.answered hr hturns
    refine ⟨front, number, back, hsigned, ?_⟩
    rw [hreply, Concurrent.reply?, hpart]
    rfl
  · rw [hmemory]
    refine ⟨hsteady.text, fun t ht => ?_, hsteady.even_of_answered hall,
      fun i number closed hmem => ?_⟩
    · obtain ⟨i, hi⟩ := List.getElem?_of_mem ht
      have hlength := (List.getElem?_eq_some_iff.1 hi).1
      obtain ⟨number, front, back, hsigned, -, -⟩ := hsteady.answered hi (hall i hlength)
      have hset : (i, .used number .set) ∈ ledger.signed := by
        rw [show ledger.signed = _ from hsigned]
        exact List.mem_append_right front List.mem_cons_self
      obtain ⟨t', ht'⟩ := Board.exists_lastSet hi hset
      exact ⟨t', Board.exists_copy_of_lastSet ht', ht'⟩
    · obtain ⟨r, hr⟩ := hsteady.signers _ hmem
      have hlength := (List.getElem?_eq_some_iff.1 hr).1
      obtain ⟨_, _, _, -, hstory, -⟩ := hsteady.answered hr (hall i hlength)
      exact ⟨r, hr, hsteady.filter_isAbout hstory hmem⟩

/-- A text is read before the handle that it was copied with is released. -/
example :
    (Board.clipboard.turns.run [0, 1, 0, 1, 1, 0]
      ⟨{}, [Request.copy "a", .read].map Invocation.begin⟩).reply? 1 =
      some (.ok ⟨true, some "a", none⟩) := rfl

end Pasteboard
