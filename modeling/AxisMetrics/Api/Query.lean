import AxisMetrics.Lib.CText

/-!
# Query strings and form bodies

`url_decode` and `api_query_param` of the HTTP API.
-/

namespace AxisMetrics

open Lib (Bytes cString isXDigit xdigitValue)

/-- The loop of `url_decode` over the bytes still to come. -/
def urlDecodeBytes : Bytes → Bytes
  | [] => []
  | b :: rest =>
    if b = 43 then 32 :: urlDecodeBytes rest
    else match rest with
      | high :: low :: rest' =>
        if b = 37 ∧ isXDigit high ∧ isXDigit low then
          UInt8.ofNat (xdigitValue high * 16 + xdigitValue low) :: urlDecodeBytes rest'
        else b :: urlDecodeBytes (high :: low :: rest')
      | rest => b :: urlDecodeBytes rest

/-- `url_decode`: the decoded buffer as a C string, so a decoded zero byte ends it. -/
def urlDecode (value : Bytes) : Bytes := cString (urlDecodeBytes value)

/-- The text after the first question mark, or all of it. -/
def afterQuestionMark (query : Bytes) : Bytes :=
  if 63 ∈ query then (query.dropWhile (· ≠ 63)).tail else query

/-- `api_query_param`: the decoded value of the first parameter with the given name. -/
def apiQueryParam (query name : Bytes) : Option Bytes :=
  ((afterQuestionMark query).splitOn 38).findSome? fun part =>
    if name.length < part.length ∧ name <+: part ∧ part[name.length]? = some 61 then
      some (urlDecode (part.drop (name.length + 1)))
    else none

end AxisMetrics
