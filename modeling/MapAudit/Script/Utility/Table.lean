import MapAudit.Script.Builtin.Conditions
import MapAudit.Script.Engine
import MapAudit.Script.Utility.Blocks
import MapAudit.Script.Utility.Characters
import MapAudit.Script.Utility.Comparing
import MapAudit.Script.Utility.Differing
import MapAudit.Script.Utility.Digests
import MapAudit.Script.Utility.Dumping
import MapAudit.Script.Utility.Encoded
import MapAudit.Script.Utility.Joining
import MapAudit.Script.Utility.Listing
import MapAudit.Script.Utility.Editor
import MapAudit.Script.Utility.Finding
import MapAudit.Script.Utility.Moving
import MapAudit.Script.Utility.Numbers
import MapAudit.Script.Utility.Parameters
import MapAudit.Script.Utility.Selection
import MapAudit.Script.Utility.Splitting
import MapAudit.Script.Utility.Status
import MapAudit.Script.Utility.Tabs
import MapAudit.Script.Utility.Usage

/-! # The utilities

    The programs that come with the machine, by their names.
-/

namespace MapAudit.Script

namespace Utility

open Procedure

/-- The utilities that need no engine. -/
def simple : List (String × (List Raw → Procedure Nat)) :=
  [("cat", cat), ("head", head), ("tail", tail), ("wc", wc), ("tac", tac), ("rev", rev),
    ("nl", nl), ("fold", fold), ("tee", tee), ("paste", paste),
    ("basename", basename), ("dirname", dirname), ("readlink", readlink), ("realpath", realpath),
    ("mkdir", mkdir), ("mkfifo", mkfifo), ("touch", touch), ("truncate", truncate),
    ("mktemp", mktemp), ("ln", ln), ("link", link), ("unlink", unlink),
    ("chmod", chmod), ("rm", rm), ("rmdir", rmdir), ("cp", cp), ("install", install), ("mv", mv),
    ("ls", ls), ("dir", fun words => ls ("-C".toList :: "-b".toList :: words)),
    ("vdir", fun words => ls ("-l".toList :: "-b".toList :: words)), ("stat", stat), ("du", du),
    ("factor", factor), ("shuf", shuf), ("getopt", getopt), ("tr", tr), ("cut", cut), ("sort", sort), ("uniq", uniq), ("comm", comm), ("join", join), ("split", split), ("expand", expand), ("unexpand", unexpand),
    ("cmp", cmp), ("diff", diff), ("dd", dd), ("od", od), ("base64", recodeAs .base64), ("base32", recodeAs .base32),
    ("basenc", basenc), ("cksum", cksum), ("sum", sum), ("md5sum", digestsOf .md5),
    ("sha1sum", digestsOf .sha1), ("sha224sum", digestsOf .sha224),
    ("sha256sum", digestsOf .sha256), ("sha384sum", digestsOf .sha384),
    ("sha512sum", digestsOf .sha512), ("b2sum", digestsOf .blake2b), ("grep", grep), ("egrep", grepAs ['E']), ("fgrep", grepAs ['F']),
    ("echo", echo), ("printf", printf), ("yes", yes), ("pwd", pwd), ("seq", seq),
    ("expr", expr), ("uname", uname), ("id", id), ("whoami", constant "root"), ("groups", constant "root"),
    ("nproc", constant "1"), ("hostname", constant "localhost"), ("arch", constant "x86_64"),
    ("tty", constant "not a tty"), ("sync", fun _ => return 0), ("sleep", sleep), ("date", date),
    ("printenv", printenv), ("which", which),
    ("test", testWords .program), ("[", testBracket .program),
    ("true", fun _ => return 0), ("false", fun _ => return 1)]

/-- The utilities that run other programs. -/
def running : List (String × (Engine → List Raw → Procedure Nat)) :=
  [("env", env), ("find", find), ("nice", nice), ("nohup", nohup),
    ("sed", sed), ("setsid", setsid),
    ("stdbuf", stdbuf), ("timeout", timeout), ("xargs", xargs)]

/-- **Utility** with a name. -/
def named? (e : Engine) (name : Raw) : Option (List Raw → Procedure Nat) :=
  (simple.lookup (String.ofList name)).orElse fun _ =>
    (running.lookup (String.ofList name)).map fun utility => utility e

/-- The names of all utilities. -/
def names : List String :=
  simple.map (·.1) ++ running.map (·.1)

end Utility

end MapAudit.Script
