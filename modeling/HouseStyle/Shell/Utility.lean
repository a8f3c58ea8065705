import HouseStyle.Shell.Utility.Calculation
import HouseStyle.Shell.Utility.Characters
import HouseStyle.Shell.Utility.Columns
import HouseStyle.Shell.Utility.Comparison
import HouseStyle.Shell.Utility.Copying
import HouseStyle.Shell.Utility.Counting
import HouseStyle.Shell.Utility.Creation
import HouseStyle.Shell.Utility.Dates
import HouseStyle.Shell.Utility.Details
import HouseStyle.Shell.Utility.Differences
import HouseStyle.Shell.Utility.Duration
import HouseStyle.Shell.Utility.Editing
import HouseStyle.Shell.Utility.Extract
import HouseStyle.Shell.Utility.Finding
import HouseStyle.Shell.Utility.Folding
import HouseStyle.Shell.Utility.Formatting
import HouseStyle.Shell.Utility.Joining
import HouseStyle.Shell.Utility.Listing
import HouseStyle.Shell.Utility.Merging
import HouseStyle.Shell.Utility.Moving
import HouseStyle.Shell.Utility.Names
import HouseStyle.Shell.Utility.Numbering
import HouseStyle.Shell.Utility.Numbers
import HouseStyle.Shell.Utility.Permission
import HouseStyle.Shell.Utility.Removal
import HouseStyle.Shell.Utility.Repeats
import HouseStyle.Shell.Utility.Reversal
import HouseStyle.Shell.Utility.Running
import HouseStyle.Shell.Utility.Scanning
import HouseStyle.Shell.Utility.Search
import HouseStyle.Shell.Utility.Sorting
import HouseStyle.Shell.Utility.Stream
import HouseStyle.Shell.Utility.Surroundings
import HouseStyle.Shell.Utility.Temporary
import HouseStyle.Shell.Utility.Testing

namespace HouseStyle.Shell.Exec

def failureStatus : Utility → Nat
  | .cmp | .diff | .egrep | .fgrep | .grep | .ls | .sort => 2
  | .expr => 3
  | .env | .nice | .nohup | .timeout => 125
  | _ => 1

def utilityWork (launch : Launch) (utility : Utility) : List (List Char) → Exec Nat :=
  match utility with
  | .arch => arch
  | .awk => awk launch
  | .basename => basename
  | .bracket => testBracketed
  | .cat => cat
  | .chmod => chmod
  | .cmp => cmp
  | .comm => comm
  | .cp => cp
  | .cut => cut
  | .date => date
  | .diff => diff
  | .dirname => dirname
  | .echo => repeatWords
  | .egrep => fun words => grep ("-E".toList :: words)
  | .env => env launch
  | .expand => expand
  | .expr => expr
  | .fgrep => fun words => grep ("-F".toList :: words)
  | .find => find launch
  | .fold => fold
  | .grep => grep
  | .groups => groups
  | .head => head
  | .identity => identity
  | .join => join
  | .link => link
  | .ln => ln
  | .logname => logname
  | .ls => ls
  | .mkdir => mkdir
  | .mktemp => mktemp
  | .mv => mv
  | .nice => nice launch
  | .nl => nl
  | .nohup => nohup launch
  | .paste => paste
  | .printenv => printenv
  | .printf => printf
  | .pwd => workingDirectory
  | .readlink => readlink
  | .realpath => realpath
  | .rev => rev
  | .rm => rm
  | .rmdir => rmdir
  | .sed => sed launch
  | .seq => seq
  | .sleep => sleepFor
  | .sort => sort
  | .stat => stat
  | .sync => sync
  | .tac => tac
  | .tail => tail
  | .tee => tee
  | .test => testWords
  | .timeout => timeout launch
  | .touch => touch
  | .tr => tr
  | .tty => tty
  | .uname => uname
  | .unexpand => unexpand
  | .uniq => uniq
  | .unlink => unlink
  | .users => users
  | .wc => wc
  | .which => which
  | .whoami => whoami
  | .xargs => xargs launch
  | .yes => yes

def complainant (utility : Utility) (name : List Char) : List Char :=
  match utility with
  | .egrep | .fgrep => "grep".toList
  | _ => name

def runUtility (launch : Launch) (utility : Utility) (name : List Char)
    (arguments : List (List Char)) : Exec Nat :=
  asProgram (complainant utility name) (failureStatus utility)
    (utilityWork launch utility arguments)

end HouseStyle.Shell.Exec
