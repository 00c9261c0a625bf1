import SqlMapper.Terminal.Pen

/-!
Wrapping text to a number of columns. Lines break at blanks and after dashes; a word that is too
long for a line is cut between clusters. Blanks at a break are dropped, and colors and links are
closed before a break and opened again after it.
-/
namespace SqlMapper.Terminal

/-- Text that is being wrapped: what is done, the blanks and the word that wait, the columns of
the current line and of the word, and the pen and the link, as read and as of what is done. -/
structure Wrapping where
  done : List Char := []
  gap : List Char := []
  word : List Char := []
  column : Nat := 0
  wordWidth : Nat := 0
  pen : Pen := {}
  link : Link := {}
  donePen : Pen := {}
  doneLink : Link := {}

namespace Wrapping

def addGap (w : Wrapping) : Wrapping :=
  { w with done := w.done ++ w.gap, gap := [], column := w.column + w.gap.length }

def addWord (w : Wrapping) : Wrapping :=
  if w.word.isEmpty then w
  else
    let w := w.addGap
    { w with done := w.done ++ w.word, word := [], column := w.column + w.wordWidth, wordWidth := 0,
             donePen := w.pen, doneLink := w.link }

def orderUnless (idle : Bool) (order : String) : List Char :=
  if idle then [] else order.toList

def breakLine (w : Wrapping) : Wrapping :=
  let noPen := w.donePen = {}
  let noLink := w.doneLink = {}
  let closing := orderUnless noPen Pen.rest ++ orderUnless noLink (Link.order {})
  let opening := orderUnless noLink w.doneLink.order ++ orderUnless noPen w.donePen.order
  { w with done := w.done ++ closing ++ '\n' :: opening, gap := [], column := 0 }

/-- Keeps the blanks at the end of a line if they fit. -/
def keepGap (limit : Nat) (w : Wrapping) : Wrapping :=
  if w.wordWidth != 0 then w
  else if limit < w.column + w.gap.length then { w with gap := [], column := 0 }
  else { w with done := w.done ++ w.gap, gap := [] }

/-- Takes an item onto the word, after cutting a word that fills the line. -/
def addItem (limit : Nat) (w : Wrapping) (item : Item) : Wrapping :=
  let w := if limit < w.wordWidth + item.width then w.addWord else w
  let w := { w with word := w.word ++ item.text, wordWidth := w.wordWidth + item.width }
  if limit < w.column + w.wordWidth + w.gap.length then w.breakLine else w

/-- Takes an item that has no width: a line break, an order or a mark. -/
def addHidden (limit : Nat) (w : Wrapping) (item : Item) : Wrapping :=
  if item.text == ['\n'] then (w.keepGap limit).addWord.breakLine
  else
    let pen := match penParameters? item.text with
      | some parameters => w.pen.after parameters
      | none => w.pen
    { w with word := w.word ++ item.text, pen, link := w.link.after item.text }

def step (limit : Nat) (w : Wrapping) (item : Item) : Wrapping :=
  if item.width == 0 then w.addHidden limit item
  else if item.text == [' '] && w.pen.blankIsEmpty then
    let w := w.addWord
    { w with gap := w.gap ++ [' '] }
  else if item.text == ['-'] then
    let w := w.addGap
    if w.column + w.wordWidth + 1 ≤ limit then
      let w := w.addWord
      { w with done := w.done ++ ['-'], column := w.column + 1 }
    else w.addItem limit item
  else w.addItem limit item

/-- Adds what waits at the end of the text, and closes what is open. -/
def finish (limit : Nat) (w : Wrapping) : List Char :=
  let w := (w.keepGap limit).addWord
  w.done ++ orderUnless (w.doneLink = {}) (Link.order {}) ++ orderUnless (w.donePen = {}) Pen.rest

end Wrapping

/-- A text in lines of at most `limit` columns. -/
def wrap (limit : Nat) (text : List Char) : List Char :=
  ((items text).foldl (Wrapping.step limit) {}).finish limit

end SqlMapper.Terminal
