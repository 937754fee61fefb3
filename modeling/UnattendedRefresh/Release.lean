/-!
# The release

What the program says about itself.
-/

namespace UnattendedRefresh.Release

def name : String := "flywheel"

def version : String := "0.1.0"

def commit : String := "0123456789abcdef0123456789abcdef01234567"

def shortCommit : String := String.ofList (commit.toList.take 7)

def environment : String := "development"

def line : String := name ++ " " ++ version

end UnattendedRefresh.Release
