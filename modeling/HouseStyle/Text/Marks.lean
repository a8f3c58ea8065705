namespace HouseStyle.Text

variable {α : Type}

abbrev Marks := List Bool

namespace Marks

def ofEnd : List α → Marks
  | [] => [true]
  | _ :: rest => false :: ofEnd rest

def first (marks : Marks) : Bool :=
  marks.headD false

def last (marks : Marks) : Bool :=
  marks.getLastD false

def before (test : α → Bool) : List α → Marks → Marks
  | item :: text, _ :: after => (test item && first after) :: before test text after
  | _, _ => [false]

def anywhere : Marks → Marks
  | [] => []
  | mark :: rest =>
    let after := anywhere rest
    (mark || first after) :: after

def afterRun (test : α → Bool) : List α → Marks → Marks
  | item :: text, mark :: rest =>
    let after := afterRun test text rest
    (mark || test item && first after) :: after
  | _, marks => marks

def either (left right : Marks) : Marks :=
  List.zipWith (· || ·) left right

def afterAny (test : α → Bool) (text : List α) (marks : Marks) : Marks :=
  marks.either (marks.before test text).anywhere

end Marks

end HouseStyle.Text
