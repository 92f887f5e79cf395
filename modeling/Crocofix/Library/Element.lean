/-
Element trees with attributes.

The order of the children counts, and an attribute that is set twice has the
second value.  Writing such a tree to a file and parsing it is taken to give the
same tree.
-/

import Crocofix.Library.Dict

namespace Crocofix

inductive Element (Tag Attribute Text : Type)
  | mk (tag : Tag) (attrib : Dict Attribute Text) (text : Option Text)
      (children : List (Element Tag Attribute Text))

namespace Element

variable {Tag Attribute Text : Type}

def tag : Element Tag Attribute Text → Tag
  | .mk tag _ _ _ => tag

def attrib : Element Tag Attribute Text → Dict Attribute Text
  | .mk _ attrib _ _ => attrib

def text : Element Tag Attribute Text → Option Text
  | .mk _ _ text _ => text

def children : Element Tag Attribute Text → List (Element Tag Attribute Text)
  | .mk _ _ _ children => children

@[simp] theorem tag_mk (tag : Tag) (attrib : Dict Attribute Text) (text : Option Text)
    (children : List (Element Tag Attribute Text)) :
    (mk tag attrib text children).tag = tag := rfl

@[simp] theorem attrib_mk (tag : Tag) (attrib : Dict Attribute Text)
    (text : Option Text) (children : List (Element Tag Attribute Text)) :
    (mk tag attrib text children).attrib = attrib := rfl

@[simp] theorem children_mk (tag : Tag) (attrib : Dict Attribute Text)
    (text : Option Text) (children : List (Element Tag Attribute Text)) :
    (mk tag attrib text children).children = children := rfl

def get [DecidableEq Attribute] (element : Element Tag Attribute Text)
    (name : Attribute) : Option Text :=
  element.attrib.get? name

section children

variable [DecidableEq Tag]

def findall (element : Element Tag Attribute Text) (tag : Tag) :
    List (Element Tag Attribute Text) :=
  element.children.filter fun child => child.tag = tag

def find (element : Element Tag Attribute Text) (tag : Tag) :
    Option (Element Tag Attribute Text) :=
  element.children.find? fun child => child.tag = tag

theorem findall_of_forall {element : Element Tag Attribute Text} {tag : Tag}
    (every : ∀ child ∈ element.children, child.tag = tag) :
    element.findall tag = element.children := by
  apply List.filter_eq_self.mpr
  intro child member
  exact decide_eq_true (every child member)

theorem findall_of_absent (element : Element Tag Attribute Text) {tag : Tag}
    (absent : ∀ child ∈ element.children, child.tag ≠ tag) :
    element.findall tag = [] := by
  apply List.filter_eq_nil_iff.mpr
  intro child member same
  exact absent child member (of_decide_eq_true same)

theorem findall_append (tag wanted : Tag) (attrib : Dict Attribute Text)
    (text : Option Text) (front back : List (Element Tag Attribute Text)) :
    (mk tag attrib text (front ++ back)).findall wanted =
      (mk tag attrib text front).findall wanted ++
        (mk tag attrib text back).findall wanted :=
  List.filter_append _ _

end children

end Element

end Crocofix
