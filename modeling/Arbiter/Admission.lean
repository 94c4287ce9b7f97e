import Arbiter.Failure
import Arbiter.Text.Blank

/-!
# Rules of admission

What a language tag, a source code and a page of results must look like. Lengths count characters.
-/

namespace Arbiter

def maxLanguageLength : Nat := 32

def maxCodeLength : Nat := 65535

def defaultPageSize : UInt32 := 10

def maxPageSize : UInt32 := 100

/-- A character that a language tag may hold: visible, of ASCII. -/
def isTagChar (c : Char) : Bool := '!' ≤ c && c ≤ '~'

/-- Accepts a language tag, or says what is wrong with it. -/
def checkLanguage (language : String) : Except String Unit :=
  if language.isEmpty then .error "Language is required"
  else if language.length > maxLanguageLength then
    .error "Language must be at most 32 characters"
  else if !language.toList.all isTagChar then
    .error "Language may not contain whitespace or control characters"
  else .ok ()

/-- Accepts a source code, or says what is wrong with it. -/
def checkCode (code : String) : Except String Unit :=
  if isBlankText code then .error "Code is required"
  else if code.length > maxCodeLength then .error "Code must be at most 65535 characters"
  else .ok ()

/-- The page and page size that are meant, or what is wrong with them. -/
def checkPaging (page size : Option UInt32) : Except String (UInt32 × UInt32) :=
  let page := page.getD 1
  let size := size.getD defaultPageSize
  if page < 1 then .error "Page number must be at least 1"
  else if size < 1 || maxPageSize < size then .error "Page size must be between 1 and 100"
  else .ok (page, size)

end Arbiter
