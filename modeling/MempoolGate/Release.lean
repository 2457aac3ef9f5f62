namespace MempoolGate.Release

def appName : String := "ShadowGuard"

def version : String := "0.1.0"

def userAgent : String := appName ++ "/" ++ version

end MempoolGate.Release
