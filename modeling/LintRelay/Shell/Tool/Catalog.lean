import LintRelay.Shell.Tool.Digest
import LintRelay.Shell.Tool.Edit
import LintRelay.Shell.Tool.Expression
import LintRelay.Shell.Tool.Files
import LintRelay.Shell.Tool.Number
import LintRelay.Shell.Tool.Order
import LintRelay.Shell.Tool.Portion
import LintRelay.Shell.Tool.Search
import LintRelay.Shell.Tool.Translate

/-!
# The catalog of tools

The tools by their names. Tools that run other programs are not among them, since they need the
shell.
-/

namespace LintRelay.Shell
namespace Task

/-- Prints its arguments again and again. As much is printed as any reader takes. -/
def repeatedly (t : Task) : Work :=
  let line := (if t.arguments.isEmpty then ['y'] else spaced t.arguments) ++ ['\n']
  { t.done (List.replicate (131072 / line.length + 1) line).flatten with status := 141 }

def echoArguments (t : Task) : Work := t.done (echoProgram false false t.arguments)

def formatArguments (t : Task) : Work :=
  let arguments := if t.arguments.head? == some ['-', '-'] then t.arguments.drop 1 else t.arguments
  match arguments with
  | [] => t.misused "missing operand".toList 1
  | format :: arguments =>
    let p := printf .program format arguments
    let w := p.errors.foldl (fun w e => t.complain w e 1) t.begun
    (w.say 1 p.printed).withStatus p.status

/-- Shows what the system is called. -/
def systemName (t : Task) : Work :=
  t.called (letters "asnrvmpio") 1 fun call =>
    let parts : List (Char × String) :=
      [('s', "Linux"), ('n', "localhost"), ('r', "6.0.0"), ('v', "#1 SMP"), ('m', "x86_64"),
        ('p', "x86_64"), ('i', "x86_64"), ('o', "GNU/Linux")]
    let chosen := parts.filter fun p =>
      call.has 'a' && p.1 != 'p' && p.1 != 'i' || call.has p.1 ||
        (call.options.isEmpty && p.1 == 's')
    t.doneLines [spaced (chosen.map (·.2.toList))]

/-- Shows who runs it. -/
def identity (t : Task) : Work :=
  t.called (letters "ugGnr") 1 fun call =>
    let one := if call.has 'n' then "root".toList else ['0']
    t.doneLines [if call.options.isEmpty then "uid=0(root) gid=0(root) groups=0(root)".toList else one]

end Task

/-- The tools with their names. -/
def tools : List (String × Tool) :=
  [("cat", Task.concatenate), ("tac", Task.reverseLines), ("rev", Task.reverseCharacters),
    ("nl", Task.number), ("head", Task.head), ("tail", Task.tail), ("wc", Task.count),
    ("cut", Task.cut), ("fold", Task.fold), ("expand", Task.expandTabs), ("paste", Task.paste),
    ("tr", Task.translate), ("od", Task.dump), ("base64", Task.baseSixtyFour),
    ("seq", Task.sequence), ("factor", Task.factor), ("sort", Task.sort), ("uniq", Task.unique),
    ("comm", Task.common), ("cmp", Task.compareOctets), ("diff", Task.difference),
    ("expr", Task.express), ("grep", Task.search .basic), ("egrep", Task.search .extended),
    ("fgrep", Task.search .fixed), ("sed", Task.editLines), ("basename", Task.baseName),
    ("dirname", Task.dirName), ("readlink", Task.readLink), ("realpath", Task.realPath),
    ("ls", Task.list), ("stat", Task.status), ("rm", Task.remove), ("unlink", Task.remove),
    ("rmdir", Task.removeDirectories), ("mkdir", Task.makeDirectories), ("touch", Task.touch),
    ("truncate", Task.truncate), ("dd", Task.duplicate), ("cp", Task.copy),
    ("install", Task.copy), ("mv", Task.move), ("ln", Task.link), ("chmod", Task.changeMode),
    ("chown", Task.begun), ("chgrp", Task.begun), ("tee", Task.tee),
    ("md5sum", Task.digest Digest.md5), ("sha1sum", Task.digest Digest.sha1),
    ("sha256sum", Task.digest Digest.sha256), ("cksum", Task.redundancyCheck),
    ("true", Task.begun), ("sync", Task.begun), ("false", fun t => t.begun.withStatus 1),
    ("echo", Task.echoArguments), ("printf", Task.formatArguments), ("yes", Task.repeatedly),
    ("pwd", Task.workingDirectory), ("uname", Task.systemName),
    ("arch", fun t => t.doneLines ["x86_64".toList]), ("id", Task.identity),
    ("whoami", fun t => t.doneLines ["root".toList]),
    ("tty", fun t => (t.doneLines ["not a tty".toList]).withStatus 1)]

def tool? (name : String) : Option Tool := (tools.find? (·.1 == name)).map (·.2)

end LintRelay.Shell
