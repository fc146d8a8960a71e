import FrontEnd.Tree.Basic
import Mathlib.Data.Option.Basic

namespace FrontEnd

inductive Ascription.Related (relation : Token → Token → Prop) : Ascription → Ascription → Prop
  | primitive {type : Primitive} : Related relation (.primitive type) (.primitive type)
  | named {name other : Token} : relation name other → Related relation (.named name) (.named other)
  | inferred : Related relation .inferred .inferred

theorem Ascription.Related.eq {relation : Token → Token → Prop}
    (h : ∀ {token other : Token}, relation token other → token = other)
    {first second : Ascription} (hrelated : Related relation first second) : first = second := by
  cases hrelated with
  | primitive => rfl
  | named hname => rw [h hname]
  | inferred => rfl

mutual

inductive Expr.Related (relation : Token → Token → Prop) : Expr → Expr → Prop
  | number {value : Int} {token other : Token} : relation token other →
      Expr.Related relation (.number value token) (.number value other)
  | binary {left right otherLeft otherRight : Expr} {operator : Kind} :
      Expr.Related relation left otherLeft → Expr.Related relation right otherRight →
        Expr.Related relation (.binary left operator right) (.binary otherLeft operator otherRight)
  | structLiteral {dot otherDot : Token} {fields otherFields : List (Token × Expr)} :
      relation dot otherDot → Expr.RelatedFields relation fields otherFields →
        Expr.Related relation (.structLiteral dot fields) (.structLiteral otherDot otherFields)

inductive Expr.RelatedFields (relation : Token → Token → Prop) :
    List (Token × Expr) → List (Token × Expr) → Prop
  | nil : Expr.RelatedFields relation [] []
  | cons {name otherName : Token} {value otherValue : Expr}
      {fields otherFields : List (Token × Expr)} : relation name otherName →
      Expr.Related relation value otherValue → Expr.RelatedFields relation fields otherFields →
        Expr.RelatedFields relation ((name, value) :: fields)
          ((otherName, otherValue) :: otherFields)

end

mutual

inductive Stmt.Related (relation : Token → Token → Prop) : Stmt → Stmt → Prop
  | declaration {name otherName : Token} {ascription otherAscription : Ascription}
      {value otherValue : Option Expr} : relation name otherName →
      Ascription.Related relation ascription otherAscription →
      Option.Rel (Expr.Related relation) value otherValue →
        Stmt.Related relation (.declaration name ascription value)
          (.declaration otherName otherAscription otherValue)
  | fieldWrite {receiver field otherReceiver otherField : Token} {operator : Kind}
      {value otherValue : Expr} : relation receiver otherReceiver → relation field otherField →
      Expr.Related relation value otherValue →
        Stmt.Related relation (.fieldWrite receiver field operator value)
          (.fieldWrite otherReceiver otherField operator otherValue)
  | structDefinition {name otherName : Token} {body otherBody : List Stmt} :
      relation name otherName → Stmt.RelatedAll relation body otherBody →
        Stmt.Related relation (.structDefinition name body) (.structDefinition otherName otherBody)
  | function {name otherName : Token} {receiver : Option Receiver}
      {result otherResult : Option Ascription} {body otherBody : List Stmt} :
      relation name otherName → Option.Rel (Ascription.Related relation) result otherResult →
      Stmt.RelatedAll relation body otherBody →
        Stmt.Related relation (.function name receiver result body)
          (.function otherName receiver otherResult otherBody)
  | returns {value otherValue : Expr} : Expr.Related relation value otherValue →
      Stmt.Related relation (.returns value) (.returns otherValue)

inductive Stmt.RelatedAll (relation : Token → Token → Prop) : List Stmt → List Stmt → Prop
  | nil : Stmt.RelatedAll relation [] []
  | cons {statement other : Stmt} {rest otherRest : List Stmt} :
      Stmt.Related relation statement other → Stmt.RelatedAll relation rest otherRest →
        Stmt.RelatedAll relation (statement :: rest) (other :: otherRest)

end

section Mono

variable {relation wider : Token → Token → Prop}

theorem Ascription.Related.mono {ascription other : Ascription}
    (h : ascription.Related relation other)
    (hwider : ∀ {token image : Token}, relation token image → wider token image) :
    ascription.Related wider other := by
  cases h with
  | primitive => exact .primitive
  | named hname => exact .named (hwider hname)
  | inferred => exact .inferred

mutual

theorem Expr.Related.mono {tree other : Expr} (h : tree.Related relation other)
    (hwider : ∀ {token image : Token}, relation token image → wider token image) :
    tree.Related wider other := by
  cases h with
  | number htoken => exact .number (hwider htoken)
  | binary hleft hright => exact .binary (hleft.mono hwider) (hright.mono hwider)
  | structLiteral hdot hfields => exact .structLiteral (hwider hdot) (hfields.mono hwider)

theorem Expr.RelatedFields.mono {fields others : List (Token × Expr)}
    (h : Expr.RelatedFields relation fields others)
    (hwider : ∀ {token image : Token}, relation token image → wider token image) :
    Expr.RelatedFields wider fields others := by
  cases h with
  | nil => exact .nil
  | cons hname hvalue hfields =>
      exact .cons (hwider hname) (hvalue.mono hwider) (hfields.mono hwider)

end

mutual

theorem Stmt.Related.mono {tree other : Stmt} (h : tree.Related relation other)
    (hwider : ∀ {token image : Token}, relation token image → wider token image) :
    tree.Related wider other := by
  cases h with
  | declaration hname hascription hvalue =>
      refine .declaration (hwider hname) (hascription.mono hwider) ?_
      cases hvalue with
      | some hvalue => exact .some (hvalue.mono hwider)
      | none => exact .none
  | fieldWrite hreceiver hfield hvalue =>
      exact .fieldWrite (hwider hreceiver) (hwider hfield) (hvalue.mono hwider)
  | structDefinition hname hbody => exact .structDefinition (hwider hname) (hbody.mono hwider)
  | function hname hresult hbody =>
      refine .function (hwider hname) ?_ (hbody.mono hwider)
      cases hresult with
      | some hresult => exact .some (hresult.mono hwider)
      | none => exact .none
  | returns hvalue => exact .returns (hvalue.mono hwider)

theorem Stmt.RelatedAll.mono {trees others : List Stmt}
    (h : Stmt.RelatedAll relation trees others)
    (hwider : ∀ {token image : Token}, relation token image → wider token image) :
    Stmt.RelatedAll wider trees others := by
  cases h with
  | nil => exact .nil
  | cons hfirst hrest => exact .cons (hfirst.mono hwider) (hrest.mono hwider)

end

end Mono

section Map

variable (f : Token → Token)

def Ascription.mapTokens : Ascription → Ascription
  | .named name => .named (f name)
  | ascription => ascription

mutual

def Expr.mapTokens : Expr → Expr
  | .number value token => .number value (f token)
  | .binary left operator right => .binary left.mapTokens operator right.mapTokens
  | .structLiteral dot fields => .structLiteral (f dot) (mapFields fields)

def Expr.mapFields : List (Token × Expr) → List (Token × Expr)
  | [] => []
  | (name, value) :: fields => (f name, value.mapTokens) :: mapFields fields

end

mutual

def Stmt.mapTokens : Stmt → Stmt
  | .declaration name ascription value =>
      .declaration (f name) (ascription.mapTokens f) (value.map (Expr.mapTokens f))
  | .fieldWrite receiver field operator value =>
      .fieldWrite (f receiver) (f field) operator (value.mapTokens f)
  | .structDefinition name body => .structDefinition (f name) (mapAll body)
  | .function name receiver result body =>
      .function (f name) receiver (result.map (Ascription.mapTokens f)) (mapAll body)
  | .returns value => .returns (value.mapTokens f)

def Stmt.mapAll : List Stmt → List Stmt
  | [] => []
  | statement :: rest => statement.mapTokens :: mapAll rest

end

end Map

section Identity

theorem Ascription.mapTokens_id (ascription : Ascription) :
    ascription.mapTokens id = ascription := by
  cases ascription <;> rfl

mutual

theorem Expr.mapTokens_id (tree : Expr) : tree.mapTokens id = tree := by
  cases tree with
  | number value token => rw [mapTokens, id_eq]
  | binary left operator right => rw [mapTokens, left.mapTokens_id, right.mapTokens_id]
  | structLiteral dot fields => rw [mapTokens, Expr.mapFields_id fields, id_eq]

theorem Expr.mapFields_id (fields : List (Token × Expr)) : Expr.mapFields id fields = fields := by
  cases fields with
  | nil => rw [mapFields]
  | cons field fields =>
      obtain ⟨name, value⟩ := field
      rw [mapFields, value.mapTokens_id, Expr.mapFields_id fields, id_eq]

end

mutual

theorem Stmt.mapTokens_id (tree : Stmt) : tree.mapTokens id = tree := by
  cases tree with
  | declaration name ascription value =>
      rw [mapTokens, ascription.mapTokens_id, funext Expr.mapTokens_id, id_eq]
      cases value <;> rfl
  | fieldWrite receiver field operator value =>
      rw [mapTokens, value.mapTokens_id, id_eq, id_eq]
  | structDefinition name body => rw [mapTokens, Stmt.mapAll_id body, id_eq]
  | function name receiver result body =>
      rw [mapTokens, Stmt.mapAll_id body, funext Ascription.mapTokens_id, id_eq]
      cases result <;> rfl
  | returns value => rw [mapTokens, value.mapTokens_id]

theorem Stmt.mapAll_id (trees : List Stmt) : Stmt.mapAll id trees = trees := by
  cases trees with
  | nil => rw [mapAll]
  | cons tree trees => rw [mapAll, tree.mapTokens_id, Stmt.mapAll_id trees]

end

end Identity

section Graph

variable {f : Token → Token}

theorem Ascription.Related.eq_mapTokens {ascription other : Ascription}
    (h : ascription.Related (fun token image => image = f token) other) :
    other = ascription.mapTokens f := by
  cases h with
  | primitive => rfl
  | named hname => rw [hname, mapTokens]
  | inferred => rfl

mutual

theorem Expr.Related.eq_mapTokens {tree other : Expr}
    (h : tree.Related (fun token image => image = f token) other) : other = tree.mapTokens f := by
  cases h with
  | number htoken => rw [htoken, mapTokens]
  | binary hleft hright => rw [hleft.eq_mapTokens, hright.eq_mapTokens, mapTokens]
  | structLiteral hdot hfields => rw [hdot, hfields.eq_mapFields, mapTokens]

theorem Expr.RelatedFields.eq_mapFields {fields others : List (Token × Expr)}
    (h : Expr.RelatedFields (fun token image => image = f token) fields others) :
    others = Expr.mapFields f fields := by
  cases h with
  | nil => rw [mapFields]
  | cons hname hvalue hfields =>
      rw [hname, hvalue.eq_mapTokens, hfields.eq_mapFields, mapFields]

end

mutual

theorem Stmt.Related.eq_mapTokens {tree other : Stmt}
    (h : tree.Related (fun token image => image = f token) other) : other = tree.mapTokens f := by
  cases h with
  | declaration hname hascription hvalue =>
      rw [hname, hascription.eq_mapTokens, mapTokens]
      cases hvalue with
      | some hvalue => rw [hvalue.eq_mapTokens, Option.map_some]
      | none => rfl
  | fieldWrite hreceiver hfield hvalue =>
      rw [hreceiver, hfield, hvalue.eq_mapTokens, mapTokens]
  | structDefinition hname hbody => rw [hname, hbody.eq_mapAll, mapTokens]
  | function hname hresult hbody =>
      rw [hname, hbody.eq_mapAll, mapTokens]
      cases hresult with
      | some hresult => rw [hresult.eq_mapTokens, Option.map_some]
      | none => rfl
  | returns hvalue => rw [hvalue.eq_mapTokens, mapTokens]

theorem Stmt.RelatedAll.eq_mapAll {trees others : List Stmt}
    (h : Stmt.RelatedAll (fun token image => image = f token) trees others) :
    others = Stmt.mapAll f trees := by
  cases h with
  | nil => rw [mapAll]
  | cons hfirst hrest => rw [hfirst.eq_mapTokens, hrest.eq_mapAll, mapAll]

end

end Graph

end FrontEnd
