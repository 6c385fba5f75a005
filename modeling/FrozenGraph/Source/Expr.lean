/-
This file holds expressions of source text. They are printed without indentation; an embedded
statement is generated only when it is printed, and its kind is a parameter here.

A `return` may be wrapped around an expression any number of times. It is printed once in front of
a whole expression, and dropped wherever a value stands: in the body of a method and among the
items of a list.
-/

import FrozenGraph.Source.Literal
import FrozenGraph.Types.Declared

namespace FrozenGraph

mutual

/-- An expression, with embedded statements of the type `δ`. -/
inductive Expr (δ : Type) where
  | literal (value : Scalar)
  /-- A variable in scope where the source text will stand. -/
  | reference (name : String)
  | raw (text : String)
  | anonymous (extended : DeclaredType) (overrides : List (Override δ))
  | list (items : List (Expr δ))
  | ret (value : Expr δ)
  | deferred (statement : δ)

/-- A method of an anonymous class. -/
inductive Override (δ : Type) where
  | empty (name : String) (returns : DeclaredType)
  | returning (name : String) (returns : DeclaredType) (value : Expr δ)

end

namespace Expr

variable {δ : Type}

/-- The literal `null`. -/
def null : Expr δ :=
  .literal .null

/-- A `return` of a variable, the usual stand-in for an object. -/
def returnReference (name : String) : Expr δ :=
  .ret (.reference name)

/-- Whether an expression is a whole `return` statement. -/
def isReturn : Expr δ → Bool
  | .ret _ => true
  | _ => false

/-- Wraps an expression in a `return` unless it is one. -/
def returned (expression : Expr δ) : Expr δ :=
  if expression.isReturn then expression else .ret expression

/-- The expression under all its `return` wrappers. -/
def value : Expr δ → Expr δ
  | .ret inner => inner.value
  | other => other

/-! ### Printing -/

section Printing

variable {m : Type → Type} [Monad m] (generate : δ → m String)

/-- The class that lists are built with, up to its items. -/
def listOpening : String :=
  "new java.util.ArrayList() \x7b\n\x7b\n"

/-- The opening line of an overriding method. -/
def methodOpening (name : String) (returns : DeclaredType) : String :=
  "public " ++ returns.source ++ " " ++ name ++ "() \x7b\n"

mutual

/-- An expression where a value stands. -/
def valueSource : Expr δ → m String
  | .literal value => pure value.source
  | .reference name => pure name
  | .raw text => pure text
  | .anonymous extended overrides => do
    let methods ← overridesSource overrides
    pure ("new " ++ extended.source ++ "() \x7b\n" ++ methods ++ "\x7d")
  | .list items => do
    let additions ← additionsSource items
    pure (listOpening ++ additions ++ "\x7d\n\x7d")
  | .ret inner => valueSource inner
  | .deferred statement => generate statement

/-- The methods of an anonymous class. -/
def overridesSource : List (Override δ) → m String
  | [] => pure ""
  | .empty name returns :: rest => do
    let others ← overridesSource rest
    pure (methodOpening name returns ++ "\x7d\n" ++ others)
  | .returning name returns value :: rest => do
    let body ← valueSource value
    let others ← overridesSource rest
    pure (methodOpening name returns ++ "return " ++ body ++ ";\n" ++ "\x7d\n" ++ others)

/-- The statements that add the items of a list. -/
def additionsSource : List (Expr δ) → m String
  | [] => pure ""
  | item :: rest => do
    let first ← valueSource item
    let others ← additionsSource rest
    pure ("add(" ++ first ++ ");\n" ++ others)

end

/-- The statement that returns an expression. -/
def bodySource (expression : Expr δ) : m String := do
  let body ← valueSource generate expression
  pure ("return " ++ body ++ ";")

/-- A whole expression: one `return` statement if it is wrapped, else its value. -/
def source (expression : Expr δ) : m String :=
  if expression.isReturn then bodySource generate expression
  else valueSource generate expression

end Printing

end Expr

end FrozenGraph
