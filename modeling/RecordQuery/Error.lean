/-! # Errors of requests

Each error is a cause. All of them are found while a request is compiled or a page is made, and
each has one message.
-/

namespace RecordQuery

/-- What is wrong with the shape of a filter document. -/
inductive FilterFault where
  | notAnObject (given : String)
  | combinatorNeedsArray (key : String)
  | combinatorNeedsObjects (key : String)
  | objectNeedsFields (path : String)
  | boundsNeedPair
  | membersNeedArray
  | patternNeedsText
  deriving DecidableEq

/-- What is wrong with a request for a page. -/
inductive PageFault where
  | pageZero
  | sizeZero
  | outOfRange (page : Nat)
  | noTieBreaker
  deriving DecidableEq

mutual

/-- What is wrong with a cursor. -/
inductive CursorFault where
  | emptyToken
  | tokenTooLong
  | notBase64
  | notUtf8
  | layerFailed (cause : QueryError)
  | notAnObject
  | keyCount (cursor sort : Nat)
  | keyMissing (path : String)
  | valueMismatch (path : String) (cause : QueryError)
  /-- What a layer of a codec says for itself. -/
  | refused (reason : String)
  deriving Inhabited

inductive QueryError where
  | fieldNotFound (path : String)
  | coercion (given wanted : String)
  | ambiguousCollection (path : String)
  | unknownOperator (token : String)
  | operatorNotForKind (op kind : String)
  | malformedFilter (fault : FilterFault)
  | invalidPattern
  | malformedCursor (fault : CursorFault)
  | conflictingCursors
  | unknownDirection (token : String)
  | unsortable (path : String)
  | negativeDepth (depth : Int)
  | invalidPagination (fault : PageFault)
  | invalidInclude (path : String)
  deriving Inhabited

end

def FilterFault.message : FilterFault → String
  | notAnObject given => s!"expected an object at the top level, got {given}"
  | combinatorNeedsArray key => s!"'{key}' expects an array"
  | combinatorNeedsObjects key => s!"'{key}' elements must be objects"
  | objectNeedsFields path => s!"'{path}' is a nested object and needs a field map"
  | boundsNeedPair => "$between expects a two-element array [lo, hi]"
  | membersNeedArray => "$in/$notIn expect an array"
  | patternNeedsText => "$regex expects a string pattern"

def PageFault.message : PageFault → String
  | pageZero => "page numbers start at 1"
  | sizeZero => "page size must be positive"
  | outOfRange page => s!"page {page} is out of range"
  | noTieBreaker => "keyset paging needs a unique tie-breaker"

mutual

def CursorFault.message : CursorFault → String
  | .emptyToken => "cursor token is empty"
  | .tokenTooLong => "cursor token exceeds 16384 characters"
  | .notBase64 => "invalid base64"
  | .notUtf8 => "payload is not UTF-8"
  | .layerFailed cause => "transform failed: " ++ cause.message
  | .notAnObject => "invalid payload"
  | .keyCount cursor sort => s!"cursor has {cursor} keys, sort has {sort}"
  | .keyMissing path => s!"cursor does not cover sort key '{path}'"
  | .valueMismatch path cause => s!"value for '{path}': " ++ cause.message
  | .refused reason => reason

def QueryError.message : QueryError → String
  | .fieldNotFound path => s!"field not found: '{path}'"
  | .coercion given wanted => s!"cannot coerce {given} value to {wanted}"
  | .ambiguousCollection path => s!"ambiguous filter on collection '{path}': " ++
      "wrap element conditions in a sub-filter or $any"
  | .unknownOperator token => s!"invalid operator '{token}'"
  | .operatorNotForKind op kind => s!"operator '{op}' is not valid for {kind} values"
  | .malformedFilter fault => "malformed filter: " ++ fault.message
  | .invalidPattern => "invalid regex pattern"
  | .malformedCursor fault => "malformed cursor: " ++ fault.message
  | .conflictingCursors => "'before' and 'after' cursors are mutually exclusive"
  | .unknownDirection token =>
    s!"invalid sort direction '{token}', expected 'asc' or 'desc'"
  | .unsortable path => s!"cannot sort by '{path}': path crosses a collection"
  | .negativeDepth depth => s!"search depth must not be negative, got {depth}"
  | .invalidPagination fault => "invalid pagination: " ++ fault.message
  | .invalidInclude path => s!"invalid include '{path}'"

end

end RecordQuery
