/-!
The reference of the language's own libraries: a JSON list of descriptors, as the prompts show it.
-/

namespace GuidedSynthesis.Library

/-- The lines of the bundled reference. -/
def referenceLines : List String := [
  "[",
  "  \x7b",
  "    \"name\": \"ballerina/lang.array\",",
  "    \"description\": \"Functions that operate on lists (arrays and tuples).\",",
  "    \"functions\": [",
  "      \x7b\"name\": \"length\", \"signature\": \"function length((any|error)[] arr) returns int\"\x7d,",
  "      \x7b\"name\": \"push\", \"signature\": \"function push(Type[] arr, Type... vals)\"\x7d,",
  "      \x7b\"name\": \"pop\", \"signature\": \"function pop(Type[] arr) returns Type\"\x7d,",
  "      \x7b\"name\": \"map\", \"signature\": \"function map(Type[] arr, @isolatedParam function(Type val) returns Type1 func) returns Type1[]\"\x7d,",
  "      \x7b\"name\": \"filter\", \"signature\": \"function filter(Type[] arr, @isolatedParam function(Type val) returns boolean func) returns Type[]\"\x7d,",
  "      \x7b\"name\": \"reduce\", \"signature\": \"function reduce(Type[] arr, @isolatedParam function(Type1 accum, Type val) returns Type1 func, Type1 initial) returns Type1\"\x7d,",
  "      \x7b\"name\": \"forEach\", \"signature\": \"function forEach(Type[] arr, @isolatedParam function(Type val) returns () func)\"\x7d,",
  "      \x7b\"name\": \"indexOf\", \"signature\": \"function indexOf(AnydataType[] arr, AnydataType val, int startIndex = 0) returns int?\"\x7d,",
  "      \x7b\"name\": \"sort\", \"signature\": \"function sort(Type[] arr, SortDirection direction = ASCENDING, (isolated function(Type val) returns OrderedType)? key = ()) returns Type[]\"\x7d,",
  "      \x7b\"name\": \"slice\", \"signature\": \"function slice(Type[] arr, int startIndex, int endIndex = arr.length()) returns Type[]\"\x7d,",
  "      \x7b\"name\": \"reverse\", \"signature\": \"function reverse(Type[] arr) returns Type[]\"\x7d",
  "    ]",
  "  \x7d,",
  "  \x7b",
  "    \"name\": \"ballerina/lang.string\",",
  "    \"description\": \"Functions that operate on string values.\",",
  "    \"functions\": [",
  "      \x7b\"name\": \"length\", \"signature\": \"function length(string str) returns int\"\x7d,",
  "      \x7b\"name\": \"substring\", \"signature\": \"function substring(string str, int startIndex, int endIndex = str.length()) returns string\"\x7d,",
  "      \x7b\"name\": \"indexOf\", \"signature\": \"function indexOf(string str, string substr, int startIndex = 0) returns int?\"\x7d,",
  "      \x7b\"name\": \"includes\", \"signature\": \"function includes(string str, string substr, int startIndex = 0) returns boolean\"\x7d,",
  "      \x7b\"name\": \"startsWith\", \"signature\": \"function startsWith(string str, string substr) returns boolean\"\x7d,",
  "      \x7b\"name\": \"endsWith\", \"signature\": \"function endsWith(string str, string substr) returns boolean\"\x7d,",
  "      \x7b\"name\": \"toLowerAscii\", \"signature\": \"function toLowerAscii(string str) returns string\"\x7d,",
  "      \x7b\"name\": \"toUpperAscii\", \"signature\": \"function toUpperAscii(string str) returns string\"\x7d,",
  "      \x7b\"name\": \"trim\", \"signature\": \"function trim(string str) returns string\"\x7d,",
  "      \x7b\"name\": \"join\", \"signature\": \"function join(string separator, string... strs) returns string\"\x7d",
  "    ]",
  "  \x7d,",
  "  \x7b",
  "    \"name\": \"ballerina/lang.int\",",
  "    \"description\": \"Functions that operate on int values.\",",
  "    \"functions\": [",
  "      \x7b\"name\": \"abs\", \"signature\": \"function abs(int n) returns int\"\x7d,",
  "      \x7b\"name\": \"sum\", \"signature\": \"function sum(int... ns) returns int\"\x7d,",
  "      \x7b\"name\": \"max\", \"signature\": \"function max(int n, int... ns) returns int\"\x7d,",
  "      \x7b\"name\": \"min\", \"signature\": \"function min(int n, int... ns) returns int\"\x7d,",
  "      \x7b\"name\": \"fromString\", \"signature\": \"function fromString(string s) returns int|error\"\x7d,",
  "      \x7b\"name\": \"toHexString\", \"signature\": \"function toHexString(int n) returns string\"\x7d",
  "    ]",
  "  \x7d,",
  "  \x7b",
  "    \"name\": \"ballerina/lang.map\",",
  "    \"description\": \"Functions that operate on mappings.\",",
  "    \"functions\": [",
  "      \x7b\"name\": \"length\", \"signature\": \"function length(map<any|error> m) returns int\"\x7d,",
  "      \x7b\"name\": \"keys\", \"signature\": \"function keys(map<any|error> m) returns string[]\"\x7d,",
  "      \x7b\"name\": \"hasKey\", \"signature\": \"function hasKey(map<any|error> m, string k) returns boolean\"\x7d,",
  "      \x7b\"name\": \"get\", \"signature\": \"function get(map<Type> m, string k) returns Type\"\x7d,",
  "      \x7b\"name\": \"remove\", \"signature\": \"function remove(map<Type> m, string k) returns Type\"\x7d,",
  "      \x7b\"name\": \"entries\", \"signature\": \"function entries(map<Type> m) returns map<[string, Type]>\"\x7d",
  "    ]",
  "  \x7d,",
  "  \x7b",
  "    \"name\": \"ballerina/lang.value\",",
  "    \"description\": \"Functions that operate on values of any type.\",",
  "    \"functions\": [",
  "      \x7b\"name\": \"clone\", \"signature\": \"function clone(CloneableType v) returns CloneableType\"\x7d,",
  "      \x7b\"name\": \"cloneReadOnly\", \"signature\": \"function cloneReadOnly(CloneableType v) returns CloneableType & readonly\"\x7d,",
  "      \x7b\"name\": \"cloneWithType\", \"signature\": \"function cloneWithType(anydata v, typedesc<anydata> t = <>) returns t|error\"\x7d,",
  "      \x7b\"name\": \"toJson\", \"signature\": \"function toJson(anydata v) returns json\"\x7d,",
  "      \x7b\"name\": \"toJsonString\", \"signature\": \"function toJsonString(anydata v) returns string\"\x7d,",
  "      \x7b\"name\": \"fromJsonString\", \"signature\": \"function fromJsonString(string str) returns json|error\"\x7d,",
  "      \x7b\"name\": \"toString\", \"signature\": \"function toString((any) v) returns string\"\x7d",
  "    ]",
  "  \x7d",
  "]"]

/-- The bundled reference. -/
def reference : String := "\n".intercalate referenceLines

end GuidedSynthesis.Library
