import Logcheck.Syntax
import Logcheck.Strings
import Logcheck.Regexp
import Logcheck.Config
import Logcheck.Klog
import Logcheck.Keys
import Logcheck.FormatSpecifier
import Logcheck.FunctionExpr
import Logcheck.Run
import Logcheck.Safety
import Logcheck.Distinct
import Logcheck.KeyValues
import Logcheck.Checks
import Logcheck.Silence
import Logcheck.Monotone
