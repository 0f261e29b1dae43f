import IterativeDns.Proofs.Layout
import IterativeDns.Proofs.Reports
import IterativeDns.Resolution.Script
import IterativeDns.Shell.Session

/-!
# Sessions as sequences of commands

A session of the shell is what its commands are, one after the other.  Lines that are no commands,
and all that follows the first quit, are as if they were not there.  This file says what each
command does with the resolver and what it shows, without a shell and without its mailbox, and shows
that sessions do and show just that.

* `Shell.commands` — the commands of a session, each with the time that passes before it.
* `Command.uses`, `Command.shows` — what a command does with a resolver, and what it shows.
* `Lifetime.IsCollected` — the mailbox of the shell is empty.  It is the invariant between commands.
* `Shell.toList_unlines` — what is written of lines: their characters, and a line feed after each.
* `Shell.session_follows_commands` — **a session is the sequence of its commands.**
-/

namespace IterativeDns

/-! ## Commands -/

namespace Command

/-- The command on a line, if the line is one. -/
def read? (line : String) : Option Command := (parse line).toOption.join

/-- What a command does with a resolver, to whose reports the shell subscribed under a number. -/
def uses (subscriber : Nat) : Command → List Use
  | lookup query => [.lookup query, .collect subscriber]
  | trace on => [.setVerbose on]
  | server address => [.setRootServer address]
  | dump => []
  | quit => []

/-- What a command shows.  A lookup shows the events that are reported in the course of it, if any
are to be, and then a line for each record that it finds, or one for none. -/
def shows {σ : Type} (network : Network σ) (life : Lifetime σ) : Command → List String
  | lookup query =>
    let held := life.lookup network query
    let events :=
      if life.resolver.memory.tracer.verbose then held.transcript.history.reports else []
    let records := match held.value.1 with
      | .ok records => records
      | .error _ => []
    let found :=
      if records = [] then [Report.line query "-1" "0.0.0.0"]
      else records.map fun record =>
        Report.line query (Text.decimal record.ttl.toNat) record.data.text
    events.flatMap Report.event ++ found
  | trace on => ["Verbose tracing is now: " ++ if on then "ON" else "OFF"]
  | server address => ["Root DNS server is now: " ++ address.text]
  | dump => Report.dump life.resolver.memory.cache life.resolver.memory.now
  | quit => []

end Command

namespace Shell

/-- The commands on lines up to the first that ends the session, each with the time that passes
before it.  Some time has passed already. -/
def commands : (passed : Nat) → List (Nat × String) → List (Nat × Command)
  | _, [] => []
  | passed, (pause, line) :: lines =>
    match Command.read? line with
    | none => commands (passed + pause) lines
    | some .quit => []
    | some command => (passed + pause, command) :: commands 0 lines

/-- What commands do with a resolver, one after the other. -/
def uses (subscriber : Nat) (commands : List (Nat × Command)) : List Use :=
  commands.flatMap fun (pause, command) => .wait pause :: command.uses subscriber

/-- What commands show, one after the other. -/
def shown {σ : Type} (network : Network σ) (subscriber : Nat) (life : Lifetime σ) :
    List (Nat × Command) → List String
  | [] => []
  | (pause, command) :: commands =>
    let life := life.use network (.wait pause)
    command.shows network life ++
      shown network subscriber (life.run network (command.uses subscriber)) commands

end Shell

namespace Shell

variable {passed pause : Nat} {line : String} {lines : List (Nat × String)}

theorem commands_cons_of_none (h : Command.read? line = none) :
    commands passed ((pause, line) :: lines) = commands (passed + pause) lines := by
  rw [commands, h]

theorem commands_cons_of_quit (h : Command.read? line = some .quit) :
    commands passed ((pause, line) :: lines) = [] := by
  rw [commands, h]

theorem commands_cons_of_some {command : Command} (h : Command.read? line = some command)
    (hquit : command ≠ .quit) :
    commands passed ((pause, line) :: lines) = (passed + pause, command) :: commands 0 lines := by
  rw [commands, h]
  cases command with
  | quit => exact absurd rfl hquit
  | _ => rfl

/-- The uses that commands are come one after the other. -/
theorem run_uses_cons {σ : Type} (network : Network σ) (subscriber : Nat) (life : Lifetime σ)
    (command : Command) (rest : List (Nat × Command)) :
    life.run network (uses subscriber ((pause, command) :: rest)) =
      ((life.use network (.wait pause)).run network (command.uses subscriber)).run network
        (uses subscriber rest) :=
  Lifetime.run_append network life (.wait pause :: command.uses subscriber) (uses subscriber rest)

end Shell

/-- What happened while the resolver was at work. -/
def History.activity (past : History) : History :=
  past.filter fun
    | .idle _ => false
    | .entry _ => true

@[simp] theorem History.activity_append (past next : History) :
    (past ++ next).activity = past.activity ++ next.activity :=
  List.filter_append ..

@[simp] theorem Transcript.activity_history (transcript : Transcript) :
    transcript.history.activity = transcript.history :=
  List.filter_eq_self.2 fun occurrence hmem => by
    obtain ⟨entry, -, rfl⟩ := List.mem_map.1 hmem
    rfl

/-! ## One command -/

namespace Lifetime

variable {σ : Type} {life : Lifetime σ} {subscriber : Nat} (network : Network σ)

/-- A subscriber is there, and has collected all reports. -/
def IsCollected (subscriber : Nat) (life : Lifetime σ) : Prop :=
  life.resolver.memory.tracer.mailboxes[subscriber]? = some (some [])

namespace IsCollected

variable (hcollected : life.IsCollected subscriber)

include hcollected

theorem isHeard_eq : life.resolver.memory.tracer.isHeard = life.resolver.memory.tracer.verbose := by
  have hlive : life.resolver.memory.tracer.mailboxes.any (·.isSome) = true :=
    List.any_eq_true.2 ⟨_, List.mem_of_getElem? hcollected, rfl⟩
  rw [Tracer.isHeard, hlive, Bool.and_true]

/-- After a lookup, its reports are in the mailbox, and nothing else is. -/
theorem mail_lookup (query : Query) :
    (life.use network (.lookup query)).resolver.memory.tracer.mailboxes[subscriber]? =
      some (some (life.lookup network query).transcript.history.reports) := by
  obtain ⟨htold, -⟩ := life.resolver.lookup_inquired query network life.network
  have hmailboxes := congrArg (·.mailboxes[subscriber]?) htold
  refine hmailboxes.trans ?_
  simp only [Tracer.told, List.getElem?_map]
  rw [hcollected]
  rfl

/-- Nothing is reported to a shell that does not want reports. -/
theorem reports_lookup (query : Query) :
    (life.lookup network query).transcript.history.reports =
      if life.resolver.memory.tracer.verbose then
        (life.lookup network query).transcript.history.reports
      else [] := by
  obtain ⟨-, inquiries, -, -, hreports⟩ := life.resolver.lookup_inquired query network life.network
  rw [hcollected.isHeard_eq] at hreports
  split
  · rfl
  · rename_i hquiet
    exact hreports.trans (if_neg hquiet)

theorem wait (milliseconds : Nat) :
    (life.use network (.wait milliseconds)).IsCollected subscriber := hcollected

end IsCollected

end Lifetime

namespace Shell

variable {σ : Type} (network : Network σ) {life : Lifetime σ} {subscriber : Nat}

/-- A command was carried out: it showed what it shows, did what it does, and left the mailbox of
the shell empty. -/
structure CarriesOut (network : Network σ) (subscriber : Nat) (life : Lifetime σ)
    (command : Command) (held : Held σ Reaction) : Prop where
  /-- What is shown, and the shell afterwards. -/
  value_eq : held.value =
    { output := command.shows network life
      shell := ⟨(life.run network (command.uses subscriber)).resolver, subscriber⟩ }
  /-- The network afterwards. -/
  network_eq : held.network = (life.run network (command.uses subscriber)).network
  /-- What happened. -/
  history_eq : (life.run network (command.uses subscriber)).history =
    life.history ++ held.transcript.history
  /-- The mailbox is empty. -/
  isCollected : (life.run network (command.uses subscriber)).IsCollected subscriber

/-- **What one command comes to,** if the mailbox of the shell is empty before it. -/
theorem carriesOut_execute (hcollected : life.IsCollected subscriber) {command : Command}
    (hquit : command ≠ .quit) :
    CarriesOut network subscriber life command
      ((execute ⟨life.resolver, subscriber⟩ command).hold network life.network) := by
  have hnothing : life.history = life.history ++ Transcript.history [] := (List.append_nil _).symm
  cases command with
  | quit => exact absurd rfl hquit
  | trace on => exact ⟨rfl, rfl, hnothing, hcollected⟩
  | server address => exact ⟨rfl, rfl, hnothing, hcollected⟩
  | dump => exact ⟨rfl, rfl, hnothing, hcollected⟩
  | lookup query =>
    let looked := life.lookup network query
    have hheld : (execute ⟨life.resolver, subscriber⟩ (.lookup query)).hold network life.network =
        ⟨_, looked.transcript ++ [], looked.network⟩ :=
      Dialogue.hold_bind network (life.resolver.lookup query) _ life.network
    have hmail : looked.value.2.memory.tracer.mailboxes[subscriber]? =
        some (some looked.transcript.history.reports) := hcollected.mail_lookup network query
    have hevents : (looked.value.2.collect subscriber).1 =
        if life.resolver.memory.tracer.verbose then looked.transcript.history.reports else [] := by
      rw [← hcollected.reports_lookup network query]
      show (looked.value.2.memory.tracer.mailboxes[subscriber]?.join).getD [] = _
      rw [hmail]
      rfl
    rw [hheld]
    refine ⟨?_, rfl, ?_, ?_⟩
    · show Reaction.mk ((looked.value.2.collect subscriber).1.flatMap Report.event ++
        Report.results query _) _ _ _ = _
      rw [hevents, Report.results_eq_ite]
      rfl
    · show life.history ++ looked.transcript.history =
        life.history ++ (looked.transcript ++ []).history
      rw [List.append_nil]
    · show (looked.value.2.memory.tracer.mailboxes.modify subscriber _)[subscriber]? = _
      rw [List.getElem?_modify, hmail]
      simp

/-! ## One line -/

/-- A line that is no command leads to a complaint at most. -/
theorem react_of_read?_eq_none (shell : Shell) {line : String} (h : Command.read? line = none) :
    ∃ complaint, shell.react line = .done { complaint, shell } := by
  unfold react
  cases hparse : Command.parse line with
  | error error => exact ⟨some error, rfl⟩
  | ok command =>
    cases command with
    | none => exact ⟨none, rfl⟩
    | some command => simp [Command.read?, hparse, Except.toOption] at h

theorem react_of_read?_eq_some (shell : Shell) {line : String} {command : Command}
    (h : Command.read? line = some command) : shell.react line = shell.execute command := by
  unfold react
  cases hparse : Command.parse line with
  | error error => simp [Command.read?, hparse, Except.toOption] at h
  | ok found =>
    obtain rfl : found = some command := by simpa [Command.read?, hparse, Except.toOption] using h
    rfl

theorem unlines_nil : unlines [] = "" := rfl

theorem unlines_append (lines more : List String) :
    unlines (lines ++ more) = unlines lines ++ unlines more := by
  simp [unlines]

/-- What is written are the characters of the lines, with a line feed after each. -/
theorem toList_unlines (lines : List String) :
    (unlines lines).toList = lines.flatMap fun line => line.toList ++ ['\n'] := by
  induction lines with
  | nil => rfl
  | cons line lines ih =>
    have hfirst : (unlines [line]).toList = line.toList ++ ['\n'] := by
      simp [unlines]
    rw [← List.singleton_append, unlines_append, String.toList_append, ih, hfirst,
      List.flatMap_append, List.flatMap_singleton]

@[simp] theorem wait_zero (shell : Shell) : shell.wait 0 = shell := by
  simp [wait, Resolver.wait, Memory.wait]

theorem wait_wait (shell : Shell) (first second : Nat) :
    (shell.wait first).wait second = shell.wait (first + second) := by
  simp [wait, Resolver.wait, Memory.wait, Int.add_assoc]

/-- A line that is no command changes nothing but what is complained about. -/
theorem hold_converse_of_none (shell : Shell) {pause : Nat} {line : String}
    (lines : List (Nat × Option String)) (state : σ) (h : Command.read? line = none) :
    let rest := ((shell.wait pause).converse false lines).hold network state
    ∃ complaints, (shell.converse false ((pause, some line) :: lines)).hold network state =
      { rest with value := { rest.value with complaints } } := by
  intro rest
  obtain ⟨complaint, hreact⟩ := (shell.wait pause).react_of_read?_eq_none h
  refine ⟨complaint.toList ++ rest.value.complaints, ?_⟩
  rw [converse, hreact, Dialogue.bind_eq, Dialogue.done_bind]
  simp only [Dialogue.bind_eq, Dialogue.pure_eq, Dialogue.hold_bind, Dialogue.hold, promptIf,
    Bool.false_eq_true, if_false, unlines_nil, String.empty_append, List.append_nil]
  rfl

/-- A command is carried out, and then come the other lines. -/
theorem hold_converse_of_some (shell : Shell) {pause : Nat} {line : String}
    (lines : List (Nat × Option String)) (state : σ) {command : Command}
    (h : Command.read? line = some command) :
    let first := ((shell.wait pause).execute command).hold network state
    let rest := (first.value.shell.converse false lines).hold network first.network
    first.value.isOver = false →
    ∃ complaints, (shell.converse false ((pause, some line) :: lines)).hold network state =
      { value := { rest.value with
          output := unlines first.value.output ++ rest.value.output
          complaints }
        transcript := first.transcript ++ rest.transcript
        network := rest.network } := by
  intro first rest hgoing
  refine ⟨first.value.complaint.toList ++ rest.value.complaints, ?_⟩
  rw [converse, react_of_read?_eq_some _ h, Dialogue.bind_eq, Dialogue.hold_bind]
  have hover : (((shell.wait pause).execute command).hold network state).value.isOver = false :=
    hgoing
  simp only [Dialogue.bind_eq, Dialogue.pure_eq, Dialogue.hold_bind, Dialogue.hold, promptIf, hover,
    Bool.false_eq_true, if_false, String.empty_append, List.append_nil]
  rfl

/-! ## Whole sessions -/

/-- What is shown, done and left is what commands come to, one after the other. -/
structure Follows (network : Network σ) (subscriber : Nat) (life : Lifetime σ)
    (commands : List (Nat × Command)) (held : Held σ Session) : Prop where
  /-- All lines were text. -/
  isReadable : held.value.isReadable = true
  /-- What the commands show was shown, and the farewell. -/
  output_eq : held.value.output = unlines (shown network subscriber life commands ++ [farewell])
  /-- The shell is left as the commands leave it, some time later. -/
  shell_eq : ∃ idle, held.value.shell =
    wait idle ⟨(life.run network (uses subscriber commands)).resolver, subscriber⟩
  /-- The network is left as the commands leave it. -/
  network_eq : held.network = (life.run network (uses subscriber commands)).network
  /-- Nothing happened but what the commands did. -/
  activity_eq : (life.run network (uses subscriber commands)).history.activity =
    life.history.activity ++ held.transcript.history

/-- A line that is no command comes first. -/
theorem Follows.complained {commands : List (Nat × Command)} {rest : Held σ Session}
    (h : Follows network subscriber life commands rest) (complaints : List CommandError) :
    Follows network subscriber life commands
      { rest with value := { rest.value with complaints } } :=
  ⟨h.isReadable, h.output_eq, h.shell_eq, h.network_eq, h.activity_eq⟩

/-- A command comes first. -/
theorem Follows.cons {pause : Nat} {command : Command} {commands : List (Nat × Command)}
    {first : Held σ Reaction} {rest : Held σ Session}
    (hfirst : CarriesOut network subscriber (life.use network (.wait pause)) command first)
    (hrest : Follows network subscriber
      ((life.use network (.wait pause)).run network (command.uses subscriber)) commands rest)
    (complaints : List CommandError) :
    Follows network subscriber life ((pause, command) :: commands)
      { value := { rest.value with
          output := unlines first.value.output ++ rest.value.output
          complaints }
        transcript := first.transcript ++ rest.transcript
        network := rest.network } where
  isReadable := hrest.isReadable
  output_eq := by
    show unlines first.value.output ++ rest.value.output = unlines (_ ++ _ ++ _)
    rw [hrest.output_eq, hfirst.value_eq, List.append_assoc, unlines_append _ (_ ++ _)]
  shell_eq := by
    rw [run_uses_cons]
    exact hrest.shell_eq
  network_eq := by
    rw [run_uses_cons]
    exact hrest.network_eq
  activity_eq := by
    have hidle : (life.use network (.wait pause)).history.activity = life.history.activity := by
      show (life.history ++ [Occurrence.idle pause]).activity = _
      rw [History.activity_append]
      exact List.append_nil _
    rw [run_uses_cons, hrest.activity_eq, hfirst.history_eq, History.activity_append, hidle,
      Transcript.activity_history, List.append_assoc]
    simp [Transcript.history]

/-- By induction on the lines.  Between any two of them the mailbox of the shell is empty, and the
time since the last command has not been counted yet. -/
theorem follows_converse (lines : List (Nat × String)) (passed : Nat) {shell : Shell}
    (hshell : shell = wait passed ⟨life.resolver, subscriber⟩)
    (hcollected : life.IsCollected subscriber) :
    Follows network subscriber life (commands passed lines)
      ((shell.converse false (lines.map fun (pause, line) => (pause, some line))).hold network
        life.network) := by
  induction lines generalizing passed shell life with
  | nil => exact ⟨rfl, rfl, ⟨passed, hshell⟩, rfl, (List.append_nil _).symm⟩
  | cons first lines ih =>
    obtain ⟨pause, line⟩ := first
    have hwaited : shell.wait pause = wait (passed + pause) ⟨life.resolver, subscriber⟩ := by
      rw [hshell, wait_wait]
    rw [List.map_cons]
    cases hread : Command.read? line with
    | none =>
      obtain ⟨complaints, hheld⟩ := hold_converse_of_none network shell
        (lines.map fun (pause, line) => (pause, some line)) life.network hread
      rw [hheld, commands_cons_of_none hread]
      exact (ih (passed + pause) hwaited hcollected).complained network complaints
    | some command =>
      by_cases hquit : command = .quit
      · subst hquit
        rw [commands_cons_of_quit hread, converse, react_of_read?_eq_some _ hread]
        exact ⟨rfl, rfl, ⟨passed + pause, hwaited⟩, rfl, (List.append_nil _).symm⟩
      · have hfirst := carriesOut_execute network (hcollected.wait network (passed + pause)) hquit
        rw [show Shell.mk (life.use network (.wait (passed + pause))).resolver subscriber =
          shell.wait pause from hwaited.symm] at hfirst
        obtain ⟨complaints, hheld⟩ := hold_converse_of_some network shell
          (lines.map fun (pause, line) => (pause, some line)) life.network hread
          (congrArg Reaction.isOver hfirst.value_eq)
        rw [hheld, commands_cons_of_some hread hquit]
        have hrest := ih 0 ((congrArg Reaction.shell hfirst.value_eq).trans (wait_zero _).symm)
          hfirst.isCollected
        rw [← hfirst.network_eq] at hrest
        exact .cons network hfirst hrest complaints

/-- **A session is the sequence of its commands.**  Whatever a resolver knows, on whatever network
and whenever the lines come, what a session writes are lines, each followed by a line feed: which
server it starts at, then what each command shows that comes before the first quit, one after the
other, and at last the farewell.  It is done with the resolver and on the network what these
commands do, and nothing else; what a lookup shows are the reports of that very lookup and its
records. -/
theorem session_follows_commands (resolver : Resolver) (lines : List (Nat × String))
    (network : Network σ) (state : σ) :
    let shell := ofResolver resolver
    let life : Lifetime σ := ⟨shell.resolver, state, []⟩
    let commands := commands 0 lines
    let after := life.run network (uses shell.subscriber commands)
    let held := (shell.session false (lines.map fun (pause, line) => (pause, some line))).hold
      network state
    held.value.isReadable = true ∧
    held.value.output.toList =
      (("Root DNS server is: " ++ resolver.config.rootServer.text) ::
        (shown network shell.subscriber life commands ++ ["Goodbye!"])).flatMap
        (fun line => line.toList ++ ['\n']) ∧
    (∃ idle, held.value.shell = wait idle ⟨after.resolver, shell.subscriber⟩) ∧
    held.network = after.network ∧
    held.transcript.history = after.history.activity := by
  intro shell life commands after held
  have hcollected : life.IsCollected shell.subscriber :=
    List.getElem?_concat_length
  have hfollows := follows_converse network lines 0 (wait_zero shell).symm hcollected
  let talk := (shell.converse false (lines.map fun (pause, line) => (pause, some line))).hold
    network state
  have hheld : held = ⟨{ talk.value with output := unlines [shell.greeting] ++ talk.value.output },
      talk.transcript ++ [], talk.network⟩ := Dialogue.hold_bind network _ _ state
  rw [hheld]
  refine ⟨hfollows.isReadable, ?_, hfollows.shell_eq, hfollows.network_eq, ?_⟩
  · have houtput : unlines [shell.greeting] ++ talk.value.output = unlines
        (shell.greeting :: (shown network shell.subscriber life commands ++ [farewell])) := by
      rw [hfollows.output_eq]
      exact (unlines_append [shell.greeting] _).symm
    exact (congrArg String.toList houtput).trans (toList_unlines _)
  · rw [List.append_nil]
    exact hfollows.activity_eq.symm

-- The server line without an address is no command, and nothing after the exit is read.
example :
    let shell := ofResolver (.ofConfig { rootServer := .v4 ⟨10, 0, 0, 1⟩ })
    let script : Script := {
      rules := [⟨.v4 ⟨10, 0, 0, 1⟩, none, none, [.response true (·.addAnswer
        ⟨⟨"example.com"⟩, .a, internetClass, 60, .a ⟨192, 0, 2, 7⟩⟩)]⟩]
      nextId := 7 }
    let lines := [(0, some "Trace ON"), (0, some "l example.com"), (5, some "server"),
      (0, some "server 10.0.0.9 # another one"), (0, some "exit"), (0, some "dump")]
    ((shell.session false lines).hold Script.network script).value.output =
      unlines ["Root DNS server is: 10.0.0.1", "Verbose tracing is now: ON", "", "",
        "Query ID     7 example.com  A --> 10.0.0.1", "Response ID: 7 Authoritative = true",
        "  Answers (1)", "       example.com                    60         A    192.0.2.7",
        "  Nameservers (0)", "  Additional Information (0)",
        "example.com                    A     60       192.0.2.7",
        "Root DNS server is now: 10.0.0.9", "Goodbye!"] := by
  decide +kernel

end Shell

end IterativeDns
