import Pasteboard.Shell.FileCommand
import Pasteboard.Shell.LineEdit
import Pasteboard.Shell.PlainCommand
import Pasteboard.Shell.Process

/-!
# Native commands by name

The native commands that do no other commands, under the names of their files.
-/

namespace Pasteboard.Shell.Machine

/-- Sends signals, as the native command does. -/
def nativeKill (m : Machine) (args : List Octets) : Machine :=
  let usage (m : Machine) : Machine := (m.complain signalUsage).withStatus 1
  let sendTo (signal : Nat) (words : List Octets) : Machine :=
    if words.isEmpty then usage m
    else words.foldl (fun m word =>
      match Octets.toNat? word with
      | none =>
        m.nativeFail 1 ("failed to parse argument: ".toList ++ quoted word)
      | some n =>
        match m.send? n signal with
        | some m => m
        | none => m.nativeFail 1 ('(' :: word ++ "): No such process".toList)) m
  let named? (word : Octets) : Option Nat :=
    Signal.ofName? (if "SIG".toList.isPrefixOf word then word.drop 3 else word)
  match args with
  | [] => usage m
  | ['-', 'l'] :: [] =>
    m.print ("HUP INT QUIT ILL TRAP ABRT BUS FPE KILL USR1 SEGV USR2 PIPE ALRM TERM STKFLT\n".toList
      ++ "CHLD CONT STOP TSTP TTIN TTOU URG XCPU XFSZ VTALRM PROF WINCH POLL PWR SYS\n".toList)
  | ['-', 'l'] :: word :: _ =>
    match named? word with
    | some n =>
      m.print ((if (Octets.toNat? word).isSome then (Signal.name? n).getD [] else Octets.ofNat n)
        ++ ['\n'])
    | none => m.nativeFail 1 ("unknown signal name ".toList ++ word)
  | ['-', 's'] :: word :: rest =>
    match named? word with
    | some n => sendTo n rest
    | none => m.nativeFail 1 ("unknown signal name ".toList ++ word)
  | ['-', '-'] :: rest => sendTo 15 rest
  | ('-' :: word) :: rest =>
    match named? word with
    | some n => sendTo n rest
    | none => usage (m.nativeComplain ("invalid argument ".toList ++ word.take 1))
  | words => sendTo 15 words

/-- The native command of a name, if it does no other commands. -/
def nativeCommand? (name : Octets) : Option (List Octets → Machine → Machine) :=
  match String.ofList name with
  | "[" => some fun args m => m.decideCondition true args
  | "base64" => some fun args m => m.base64 args
  | "basename" => some fun args m => m.printBaseNames args
  | "cat" => some fun args m => m.cat args
  | "chmod" => some fun args m => m.changeModes args
  | "cp" => some fun args m => m.copyFiles args
  | "cut" => some fun args m => m.cutText args
  | "dd" => some fun args m => m.copyBlocks args
  | "dirname" => some fun args m => m.printDirectoryNames args
  | "echo" => some fun args m => m.echo args
  | "egrep" => some fun args m => m.grep ("-E".toList :: args)
  | "expr" => some fun args m => m.printExpression args
  | "false" => some fun _ m => m.withStatus 1
  | "fgrep" => some fun args m => m.grep ("-F".toList :: args)
  | "grep" => some fun args m => m.grep args
  | "head" => some fun args m => m.extract false args
  | "kill" => some fun args m => m.nativeKill args
  | "ls" => some fun args m => m.listFiles args
  | "mkdir" => some fun args m => m.makeDirectories args
  | "mv" => some fun args m => m.moveFiles args
  | "nl" => some fun args m => m.numberLines args
  | "od" => some fun args m => m.dump args
  | "printenv" => some fun args m => m.printVariables args
  | "printf" => some fun args m => m.printFormatted args
  | "pwd" => some fun args m => m.printDirectory args
  | "readlink" => some fun args m => m.printPaths false args
  | "realpath" => some fun args m => m.printPaths true args
  | "rev" => some fun args m => m.reverseText false args
  | "rm" => some fun args m => m.removeFiles args
  | "rmdir" => some fun args m => m.removeDirectories args
  | "sed" => some fun args m => m.editLines args
  | "seq" => some fun args m => m.countUp args
  | "sleep" => some fun args m => m.sleep args
  | "sort" => some fun args m => m.sortText args
  | "tac" => some fun args m => m.reverseText true args
  | "tail" => some fun args m => m.extract true args
  | "tee" => some fun args m => m.teeFiles args
  | "test" => some fun args m => m.decideCondition false args
  | "touch" => some fun args m => m.touchFiles args
  | "tr" => some fun args m => m.exchange args
  | "true" => some fun _ m => m.withStatus 0
  | "uname" => some fun args m => m.printSystem args
  | "uniq" => some fun args m => m.uniqueText args
  | "wc" => some fun args m => m.countText args
  | "yes" => some fun args m => m.repeatLine args
  | _ => none

end Pasteboard.Shell.Machine
