namespace HouseStyle.Shell

inductive Utility where
  | arch
  | awk
  | basename
  | bracket
  | cat
  | chmod
  | cmp
  | comm
  | cp
  | cut
  | date
  | diff
  | dirname
  | echo
  | egrep
  | env
  | expand
  | expr
  | fgrep
  | find
  | fold
  | grep
  | groups
  | head
  | identity
  | join
  | link
  | ln
  | logname
  | ls
  | mkdir
  | mktemp
  | mv
  | nice
  | nl
  | nohup
  | paste
  | printenv
  | printf
  | pwd
  | readlink
  | realpath
  | rev
  | rm
  | rmdir
  | sed
  | seq
  | sleep
  | sort
  | stat
  | sync
  | tac
  | tail
  | tee
  | test
  | timeout
  | touch
  | tr
  | tty
  | uname
  | unexpand
  | uniq
  | unlink
  | users
  | wc
  | which
  | whoami
  | xargs
  | yes
  deriving DecidableEq, Repr

namespace Utility

def names : List (String × Utility) :=
  [("[", bracket), ("arch", arch), ("awk", awk), ("basename", basename), ("cat", cat),
    ("chmod", chmod), ("cmp", cmp), ("comm", comm), ("cp", cp), ("cut", cut), ("date", date),
    ("diff", diff), ("dirname", dirname), ("echo", echo), ("egrep", egrep), ("env", env),
    ("expand", expand), ("expr", expr), ("fgrep", fgrep), ("find", find), ("fold", fold),
    ("grep", grep), ("groups", groups), ("head", head), ("id", identity), ("join", join),
    ("link", link), ("ln", ln), ("logname", logname), ("ls", ls), ("mawk", awk), ("mkdir", mkdir),
    ("mktemp", mktemp), ("mv", mv), ("nawk", awk), ("nice", nice), ("nl", nl), ("nohup", nohup),
    ("paste", paste), ("printenv", printenv), ("printf", printf), ("pwd", pwd),
    ("readlink", readlink), ("realpath", realpath), ("rev", rev), ("rm", rm), ("rmdir", rmdir),
    ("sed", sed), ("seq", seq), ("sleep", sleep), ("sort", sort), ("stat", stat), ("sync", sync),
    ("tac", tac), ("tail", tail), ("tee", tee), ("test", test), ("timeout", timeout),
    ("touch", touch), ("tr", tr), ("tty", tty), ("uname", uname), ("unexpand", unexpand),
    ("uniq", uniq), ("unlink", unlink), ("users", users), ("wc", wc), ("which", which),
    ("who", users), ("whoami", whoami), ("xargs", xargs), ("yes", yes)]

end Utility

inductive Program where
  | interpreter
  | succeed
  | fail
  | utility (utility : Utility)
  deriving DecidableEq, Repr

namespace Program

def names : List (String × Program) :=
  [("sh", interpreter), ("dash", interpreter), ("true", succeed), ("false", fail)] ++
    Utility.names.map fun (name, program) => (name, utility program)

def ofName? (name : String) : Option Program :=
  names.lookup name

end Program

end HouseStyle.Shell
